import FreenetCore.Lib.Bytes
import Mathlib.Logic.Function.Basic

/-!
A POSIX-like file system for the I/O a program does through `std::fs`.

A name resolves to an inode and an inode holds bytes. Open files are handles
on inodes, not on names: after a rename over a name, a handle opened on that
name before keeps reading and writing the old inode. A handle opened for
appending writes at the end of its inode whatever its cursor says, and its
cursor then sits at that end (what `O_APPEND` does).

Errors are the `io::ErrorKind`s the modelled code tells apart; `Fault` adds
the two ways a call can fail to return an error at all: a panic, and a wait
that never ends.
-/

namespace FileSys

/-- The `io::ErrorKind`s the modelled code distinguishes. -/
inductive ErrorKind
  | notFound
  | alreadyExists
  | unexpectedEof
  | other
  deriving DecidableEq, Repr

/-- How a call can fail. -/
inductive Fault
  | io (kind : ErrorKind)
  | panic
  | hang
  deriving DecidableEq, Repr

/-- No two names resolve to the same inode: there are no hard links. -/
def DirInj {ν : Type} (dir : ν → Option Nat) : Prop :=
  ∀ m n i, dir m = some i → dir n = some i → m = n

/-- A file system over names of type `ν`: the inode each name resolves to,
the bytes of each inode, and the next inode to allocate, above every inode a
name resolves to. -/
structure Fs (ν : Type) where
  dir : ν → Option Nat
  data : Nat → List UInt8
  fresh : Nat
  dir_lt : ∀ n i, dir n = some i → i < fresh
  dir_inj : DirInj dir

/-- The `OpenOptions` flags that decide what `open` does to the directory and
to the data. -/
structure OpenOptions where
  append : Bool := false
  create : Bool := false
  createNew : Bool := false
  truncate : Bool := false
  deriving DecidableEq, Repr

/-- An open file. -/
structure Handle where
  inode : Nat
  pos : Nat
  append : Bool
  deriving DecidableEq, Repr

namespace Fs

variable {ν : Type}

/-- Changing what one name resolves to keeps every inode below a bound, when
the new inode is below it too. -/
theorem update_dir_lt [DecidableEq ν] {d : ν → Option Nat} {bound : Nat}
    (h : ∀ n i, d n = some i → i < bound) (n : ν) {o : Option Nat}
    (ho : ∀ i, o = some i → i < bound) :
    ∀ m i, Function.update d n o m = some i → i < bound := by
  intro m i hm
  by_cases hmn : m = n
  · subst hmn
    exact ho i (by simpa using hm)
  · exact h m i (by simpa [Function.update_of_ne hmn] using hm)

theorem dirInj_update_none [DecidableEq ν] {d : ν → Option Nat} (h : DirInj d) (n : ν) :
    DirInj (Function.update d n none) := by
  intro m m' i hm hm'
  by_cases hmn : m = n
  · simp [hmn] at hm
  · by_cases hmn' : m' = n
    · simp [hmn'] at hm'
    · exact h m m' i (by simpa [hmn] using hm) (by simpa [hmn'] using hm')

/-- A name made to resolve to an inode no name resolves to keeps names and
inodes apart. -/
theorem dirInj_update_some [DecidableEq ν] {d : ν → Option Nat} (h : DirInj d) (n : ν) {i : Nat}
    (hi : ∀ m, d m ≠ some i) : DirInj (Function.update d n (some i)) := by
  intro m m' j hm hm'
  by_cases hmn : m = n
  · by_cases hmn' : m' = n
    · rw [hmn, hmn']
    · simp only [hmn, Function.update_self, Option.some.injEq] at hm
      subst hm
      exact absurd (by simpa [hmn'] using hm') (hi m')
  · by_cases hmn' : m' = n
    · simp only [hmn', Function.update_self, Option.some.injEq] at hm'
      subst hm'
      exact absurd (by simpa [hmn] using hm) (hi m)
    · exact h m m' j (by simpa [hmn] using hm) (by simpa [hmn'] using hm')

/-- Moving an inode from one name to another keeps names and inodes apart. -/
theorem dirInj_rename [DecidableEq ν] {d : ν → Option Nat} (h : DirInj d) {src : ν} {i : Nat}
    (hsrc : d src = some i) (dst : ν) :
    DirInj (Function.update (Function.update d dst (some i)) src none) := by
  have hmove : DirInj (Function.update (Function.update d src none) dst (some i)) :=
    dirInj_update_some (dirInj_update_none h src) dst fun m hm => by
      by_cases hms : m = src
      · simp [hms] at hm
      · exact hms (h m src i (by simpa [hms] using hm) hsrc)
  by_cases hsd : src = dst
  · subst hsd
    simpa using dirInj_update_none h src
  · rwa [Function.update_comm (Ne.symm hsd)]

/-- A file system in which every name in `files` names a file of its own. -/
def ofList [DecidableEq ν] (files : List (ν × List UInt8)) : Fs ν :=
  { dir := fun n => files.findIdx? (·.1 = n)
    data := fun i => (files[i]?.map (·.2)).getD []
    fresh := files.length
    dir_lt := fun _ _ h => (List.findIdx?_eq_some_iff_findIdx_eq.mp h).1
    dir_inj := fun m n i hm hn => by
      obtain ⟨hi, hmi, -⟩ := List.findIdx?_eq_some_iff_getElem.mp hm
      obtain ⟨_, hni, -⟩ := List.findIdx?_eq_some_iff_getElem.mp hn
      simp only [decide_eq_true_eq] at hmi hni
      rw [← hmi, ← hni] }

/-- Replace the bytes of an inode. -/
def setData (fs : Fs ν) (i : Nat) (bytes : List UInt8) : Fs ν :=
  { fs with data := Function.update fs.data i bytes }

/-- The bytes a name holds, if it names a file. -/
def contents (fs : Fs ν) (n : ν) : Option (List UInt8) :=
  (fs.dir n).map fs.data

/-- `Path::exists`. -/
def exists? (fs : Fs ν) (n : ν) : Bool :=
  (fs.dir n).isSome

/-- `OpenOptions::open`. -/
def openFile [DecidableEq ν] (fs : Fs ν) (o : OpenOptions) (n : ν) : Except ErrorKind (Fs ν × Handle) :=
  match fs.dir n with
  | some i =>
      if o.createNew then .error .alreadyExists
      else .ok (if o.truncate then fs.setData i [] else fs, ⟨i, 0, o.append⟩)
  | none =>
      if o.create || o.createNew then
        .ok ({ dir := Function.update fs.dir n (some fs.fresh)
               data := Function.update fs.data fs.fresh []
               fresh := fs.fresh + 1
               dir_lt := update_dir_lt (fun m i h => Nat.lt_succ_of_lt (fs.dir_lt m i h)) n
                 (fun _ h => by cases h; exact Nat.lt_succ_self _)
               dir_inj := dirInj_update_some fs.dir_inj n fun m hm =>
                 Nat.lt_irrefl _ (fs.dir_lt m _ hm) }, ⟨fs.fresh, 0, o.append⟩)
      else .error .notFound

/-- `write_all` through a handle. -/
def write (fs : Fs ν) (h : Handle) (bytes : List UInt8) : Fs ν × Handle :=
  let d := fs.data h.inode
  let pos := if h.append then d.length else h.pos
  (fs.setData h.inode (Bytes.writeAt d pos bytes), { h with pos := pos + bytes.length })

/-- `fs::rename`: the destination name now resolves to the source's inode. -/
def rename [DecidableEq ν] (fs : Fs ν) (src dst : ν) : Except ErrorKind (Fs ν) :=
  match h : fs.dir src with
  | none => .error .notFound
  | some i =>
      if src = dst then .ok fs
      else .ok { fs with
        dir := Function.update (Function.update fs.dir dst (some i)) src none
        dir_lt := update_dir_lt (update_dir_lt fs.dir_lt dst fun _ hj => by
          cases hj; exact fs.dir_lt src i h) src nofun
        dir_inj := dirInj_rename fs.dir_inj h dst }

/-- `fs::remove_file`. -/
def removeFile [DecidableEq ν] (fs : Fs ν) (n : ν) : Except ErrorKind (Fs ν) :=
  match fs.dir n with
  | none => .error .notFound
  | some _ => .ok { fs with
      dir := Function.update fs.dir n none
      dir_lt := update_dir_lt fs.dir_lt n nofun
      dir_inj := dirInj_update_none fs.dir_inj n }

@[simp] theorem setData_dir (fs : Fs ν) (i : Nat) (bytes : List UInt8) :
    (fs.setData i bytes).dir = fs.dir := rfl

@[simp] theorem setData_data_self (fs : Fs ν) (i : Nat) (bytes : List UInt8) :
    (fs.setData i bytes).data i = bytes := by
  simp [setData]

theorem setData_data_ne (fs : Fs ν) {i j : Nat} (bytes : List UInt8) (h : j ≠ i) :
    (fs.setData i bytes).data j = fs.data j := by
  simp [setData, h]

@[simp] theorem write_dir (fs : Fs ν) (h : Handle) (bytes : List UInt8) :
    (fs.write h bytes).1.dir = fs.dir := rfl

@[simp] theorem write_inode (fs : Fs ν) (h : Handle) (bytes : List UInt8) :
    (fs.write h bytes).2.inode = h.inode := rfl

@[simp] theorem write_append (fs : Fs ν) (h : Handle) (bytes : List UInt8) :
    (fs.write h bytes).2.append = h.append := rfl

/-- An appending write appends, and leaves the cursor at the new end. -/
theorem write_of_append (fs : Fs ν) (h : Handle) (bytes : List UInt8) (ha : h.append = true) :
    fs.write h bytes =
      (fs.setData h.inode (fs.data h.inode ++ bytes),
        { h with pos := (fs.data h.inode).length + bytes.length }) := by
  simp [write, ha]

@[simp] theorem setData_setData (fs : Fs ν) (i : Nat) (a b : List UInt8) :
    (fs.setData i a).setData i b = fs.setData i b := by
  simp [setData]

@[simp] theorem setData_self (fs : Fs ν) (i : Nat) : fs.setData i (fs.data i) = fs := by
  simp [setData]

@[simp] theorem exists?_setData (fs : Fs ν) (i : Nat) (bytes : List UInt8) (n : ν) :
    (fs.setData i bytes).exists? n = fs.exists? n := rfl

@[simp] theorem contents_setData (fs : Fs ν) {n : ν} {i : Nat} (bytes : List UInt8)
    (h : fs.dir n = some i) : (fs.setData i bytes).contents n = some bytes := by
  simp [contents, h]

/-- Opening a file that exists, without `create_new` or `truncate`, changes
nothing and gives a handle at its start. -/
theorem openFile_of_dir [DecidableEq ν] (fs : Fs ν) (o : OpenOptions) {n : ν} {i : Nat}
    (h : fs.dir n = some i) (hnew : o.createNew = false) (htrunc : o.truncate = false) :
    fs.openFile o n = .ok (fs, ⟨i, 0, o.append⟩) := by
  simp [openFile, h, hnew, htrunc]

/-- Opening a name that resolves to nothing, with `create` or `create_new`,
makes it resolve to a fresh empty inode. -/
theorem openFile_of_none [DecidableEq ν] (fs : Fs ν) (o : OpenOptions) {n : ν}
    (h : fs.dir n = none) (hc : (o.create || o.createNew) = true) :
    ∃ fs', fs.openFile o n = .ok (fs', ⟨fs.fresh, 0, o.append⟩) ∧
      fs'.dir = Function.update fs.dir n (some fs.fresh) ∧
      fs'.data = Function.update fs.data fs.fresh [] ∧ fs'.fresh = fs.fresh + 1 := by
  simp only [openFile, h, hc, if_true]
  exact ⟨_, rfl, rfl, rfl, rfl⟩

/-- `remove_file` of a name that resolves: only that name goes. -/
theorem removeFile_of_dir [DecidableEq ν] (fs : Fs ν) {n : ν} {i : Nat} (h : fs.dir n = some i) :
    ∃ fs', fs.removeFile n = .ok fs' ∧ fs'.dir = Function.update fs.dir n none ∧
      fs'.data = fs.data := by
  simp only [removeFile, h]
  exact ⟨_, rfl, rfl, rfl⟩

/-- `rename` of a name that resolves onto another name. -/
theorem rename_of_dir [DecidableEq ν] (fs : Fs ν) {src dst : ν} {i : Nat} (h : fs.dir src = some i)
    (hne : src ≠ dst) :
    ∃ fs', fs.rename src dst = .ok fs' ∧
      fs'.dir = Function.update (Function.update fs.dir dst (some i)) src none ∧
      fs'.data = fs.data := by
  simp only [rename]
  split
  · simp_all
  · rename_i j hj
    rw [h] at hj
    cases hj
    simp only [hne, if_false]
    exact ⟨_, rfl, rfl, rfl⟩

theorem contents_of_dir (fs : Fs ν) {n : ν} {i : Nat} (h : fs.dir n = some i) :
    fs.contents n = some (fs.data i) := by
  simp [contents, h]

/-- A write at an explicit position. -/
theorem write_of_not_append (fs : Fs ν) (h : Handle) (bytes : List UInt8) (ha : h.append = false) :
    fs.write h bytes =
      (fs.setData h.inode (Bytes.writeAt (fs.data h.inode) h.pos bytes),
        { h with pos := h.pos + bytes.length }) := by
  simp [write, ha]

end Fs

end FileSys
