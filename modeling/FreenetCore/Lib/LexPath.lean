import Mathlib.Data.List.Basic
import Mathlib.Data.List.Infix

/-!
Unix paths as sequences of components, the way `std::path` compares and
joins them, and their lexical resolution.

A path is a flag for a leading `/` and the list of its components. Splitting
a string at `/` and dropping empty components and `.` gives the components
`Path::components` yields (two paths with the same components compare equal).
`join` is `PathBuf::join`: an absolute argument replaces the path, a relative
one is appended.

Lexical resolution reads the components left to right against a stack: `..`
pops the last real component, stays at the root of an absolute path, and is
kept at the front of a relative one. A path is a descendant of another when,
both resolved, the other's components are a prefix of its own. No file system
is consulted, so symbolic links play no part.
-/

namespace LexPath

/-- One component of a path, as its characters. -/
abbrev Part := List Char

/-- The parent-directory component `..`. -/
def parentDir : Part := ['.', '.']

/-- A path: whether it starts at the root, and its components. -/
structure Path where
  absolute : Bool
  parts : List Part
  deriving DecidableEq, Repr

/-- The components of a string: split at `/`, without empty components and
without `.`. -/
def components (s : List Char) : List Part :=
  (s.splitOn '/').filter fun p => p ≠ [] ∧ p ≠ ['.']

/-- `PathBuf::join`: an argument that starts at the root replaces the path. -/
def Path.join (base : Path) (s : List Char) : Path :=
  if s.head? = some '/' then ⟨true, components s⟩
  else ⟨base.absolute, base.parts ++ components s⟩

/-- One component applied to the stack of resolved components (last one
first). -/
def pushComponent (absolute : Bool) (st : List Part) (p : Part) : List Part :=
  if p = parentDir then
    match st with
    | [] => if absolute then [] else [p]
    | top :: rest => if top = parentDir then p :: st else rest
  else p :: st

/-- The components of a path after resolving `..` lexically. -/
def Path.resolve (path : Path) : List Part :=
  (path.parts.foldl (pushComponent path.absolute) []).reverse

/-- `child` lies at or below `parent`, lexically. -/
def Path.Descendant (child parent : Path) : Prop :=
  child.absolute = parent.absolute ∧ parent.resolve <+: child.resolve

instance (child parent : Path) : Decidable (child.Descendant parent) :=
  inferInstanceAs (Decidable (_ ∧ _))

/-- Components other than `..` are pushed as they are. -/
theorem foldl_pushComponent_of_ne (absolute : Bool) (st qs : List Part)
    (hqs : ∀ q ∈ qs, q ≠ parentDir) :
    qs.foldl (pushComponent absolute) st = qs.reverse ++ st := by
  induction qs generalizing st with
  | nil => rfl
  | cons q qs ih =>
      have hq : q ≠ parentDir := hqs q (List.mem_cons_self ..)
      rw [List.foldl_cons, ih _ fun r hr => hqs r (List.mem_cons_of_mem _ hr)]
      simp [pushComponent, hq]

/-- Appending components other than `..` appends them to the resolved path. -/
theorem resolve_append_of_ne (absolute : Bool) (ps qs : List Part)
    (hqs : ∀ q ∈ qs, q ≠ parentDir) :
    Path.resolve ⟨absolute, ps ++ qs⟩ = Path.resolve ⟨absolute, ps⟩ ++ qs := by
  simp only [Path.resolve, List.foldl_append]
  rw [foldl_pushComponent_of_ne absolute _ qs hqs]
  simp

/-- Joining a relative string with no `..` component stays below the base. -/
theorem descendant_join (base : Path) (s : List Char) (hrel : s.head? ≠ some '/')
    (hs : ∀ q ∈ components s, q ≠ parentDir) : (base.join s).Descendant base := by
  simp only [Path.join, hrel, if_false]
  refine ⟨rfl, ?_⟩
  rw [resolve_append_of_ne _ _ _ hs]
  exact List.prefix_append _ _

end LexPath
