import FreenetCore.Lib.LexPath
import Mathlib

/-!
The handler that serves the files of a contract's web application
(`path_handlers.rs`, reached from the router of `http_gateway.rs`).

A request `/contract/web/:key/*path` is re-formatted into one string, parsed
again as a URI, and the file path is whatever `get_file_path` leaves of the
URI's path once it has skipped a run of base58 digits, a run of `/`, a second
run of base58 digits and a second run of `/`. That rest is joined onto the
contract's web directory.

Three things come from outside this repository and are parameters here, with
what the handler relies on stated in `Env.Lawful`: `ContractKey::from_id`
(a base58 decoder), `http`'s URI parser, and the process's temporary
directory.
-/

namespace FreenetCore.Server

open LexPath

/-- `ALPHABET`: the base58 digits. -/
def alphabet : List Char :=
  "123456789ABCDEFGHJKLMNPQRSTUVWXYZabcdefghijkmnopqrstuvwxyz".toList

/-- The errors these handlers return, with their causes. -/
inductive WebSocketApiError
  | invalidParam (errorCause : List Char)
  | nodeError (errorCause : List Char)
  deriving DecidableEq, Repr

/-- What the handler reads of an `http::Uri`: its path, and how it prints. -/
structure Uri where
  path : List Char
  text : List Char
  deriving DecidableEq, Repr

/-- The parts of the handler's world that are not in this repository. -/
structure Env (κ : Type) where
  /-- `ContractKey::from_id`, with the printed error. -/
  fromId : List Char → Except (List Char) κ
  /-- `ContractKey::encoded_contract_id`. -/
  encodedContractId : κ → List Char
  /-- `str::parse::<Uri>`, with the printed error. -/
  parseUri : List Char → Except (List Char) Uri
  /-- `std::env::temp_dir()`. -/
  tempDir : Path

/-- The documented behaviour the handler relies on: a key that decodes is a
non-empty string of base58 digits, and the path of a URI written in origin
form (starting with `/`) is the text before its query (`?`) or fragment
(`#`). -/
structure Env.Lawful {κ : Type} (env : Env κ) : Prop where
  fromId_digits : ∀ k key, env.fromId k = .ok key → k ≠ [] ∧ ∀ c ∈ k, c ∈ alphabet
  parseUri_path : ∀ s u, s.head? = some '/' → env.parseUri s = .ok u →
    u.path = s.takeWhile fun c => c != '?' && c != '#'

/-- `contract_web_path`. -/
def contractWebPath (tempDir : Path) (encodedContractId : List Char) : Path :=
  (((tempDir.join "freenet".toList).join "webs".toList).join encodedContractId).join
    "web".toList

/-- `get_file_path`: strip `/contract/`, then skip base58 digits, slashes,
base58 digits and slashes, and keep the rest verbatim. -/
def getFilePath (uri : Uri) : Except WebSocketApiError (List Char) :=
  match uri.path.dropPrefix? "/contract/".toList with
  | none => .error (.invalidParam (uri.text ++ " not valid".toList))
  | some p =>
      .ok ((((p.dropWhile (alphabet.contains ·)).dropWhile (· == '/')).dropWhile
        (alphabet.contains ·)).dropWhile (· == '/'))

/-- `variable_content`, up to the path it hands to `ServeFile`. -/
def variableContent {κ : Type} (env : Env κ) (key reqPath : List Char) :
    Except WebSocketApiError Path :=
  match env.fromId key with
  | .error e => .error (.invalidParam e)
  | .ok key =>
      let basePath := contractWebPath env.tempDir (env.encodedContractId key)
      match env.parseUri reqPath with
      | .error e => .error (.nodeError e)
      | .ok reqUri =>
          match getFilePath reqUri with
          | .error e => .error e
          | .ok p => .ok (basePath.join p)

/-- `web_subpages`: the route `/contract/web/:key/*path`, with the capture
`lastPath` after the router's percent-decoding. -/
def webSubpages {κ : Type} (env : Env κ) (key lastPath : List Char) :
    Except WebSocketApiError Path :=
  variableContent env key ("/contract/web/".toList ++ key ++ '/' :: lastPath)

/-! ### Which file is served -/

/-- What `get_file_path` leaves of a capture: the text before its first `?`
or `#` (the re-parsed URI's query and fragment are not part of its path),
without leading slashes. -/
def servedPart (lastPath : List Char) : List Char :=
  (lastPath.takeWhile fun c => c != '?' && c != '#').dropWhile (· == '/')

theorem not_slash_of_digit {c : Char} (hc : c ∈ alphabet) : (c == '/') = false := by
  have : c ≠ '/' := by
    rintro rfl
    exact absurd hc (by decide)
  simpa using this

theorem not_query_of_digit {c : Char} (hc : c ∈ alphabet) :
    (c != '?' && c != '#') = true := by
  have h1 : c ≠ '?' := by rintro rfl; exact absurd hc (by decide)
  have h2 : c ≠ '#' := by rintro rfl; exact absurd hc (by decide)
  simp [h1, h2]

/-- Every character of a list is a base58 digit, checked by computing
`all` (deciding the quantified statement itself goes through a far deeper
instance). -/
theorem forall_mem_alphabet_of_all {l : List Char} (h : l.all (alphabet.contains ·) = true) :
    ∀ c ∈ l, c ∈ alphabet := fun c hc => by
  simpa using List.all_eq_true.mp h c hc

/-- The path of the re-formatted request ends in the capture's path part:
the route's prefix and the key have no `?` or `#`. -/
theorem takeWhile_requestPath {k : List Char} (hk : ∀ c ∈ k, c ∈ alphabet)
    (s : List Char) :
    ("/contract/web/".toList ++ k ++ '/' :: s).takeWhile (fun c => c != '?' && c != '#') =
      "/contract/web/".toList ++ k ++ '/' :: s.takeWhile fun c => c != '?' && c != '#' := by
  rw [List.append_assoc, List.takeWhile_append_of_pos (List.all_eq_true.mp (by decide)),
    List.takeWhile_append_of_pos fun c hc => not_query_of_digit (hk c hc)]
  simp

/-- A run of base58 digits ended by `/` is skipped up to the `/`. -/
theorem dropWhile_digits {k : List Char} (hk : ∀ c ∈ k, c ∈ alphabet) (rest : List Char) :
    (k ++ '/' :: rest).dropWhile (alphabet.contains ·) = '/' :: rest := by
  rw [List.dropWhile_append_of_pos fun x hx => by simpa using hk x hx]
  exact List.dropWhile_cons_of_neg (by decide)

/-- A single `/` before something other than `/` is skipped. -/
theorem dropWhile_one_slash {c : Char} (hc : (c == '/') = false) (rest : List Char) :
    ('/' :: c :: rest).dropWhile (· == '/') = c :: rest := by
  rw [List.dropWhile_cons_of_pos (by decide), List.dropWhile_cons_of_neg (by simp [hc])]

/-- `get_file_path` on the path of a request for key `k` skips the route and
the key, and keeps the rest without its leading slashes. -/
theorem getFilePath_requestPath {k : List Char} (hk0 : k ≠ [])
    (hk : ∀ c ∈ k, c ∈ alphabet) (t text : List Char) :
    getFilePath ⟨"/contract/web/".toList ++ k ++ '/' :: t, text⟩ =
      .ok (t.dropWhile (· == '/')) := by
  obtain ⟨c, k', rfl⟩ := List.exists_cons_of_ne_nil hk0
  have hstrip : ("/contract/web/".toList ++ (c :: k') ++ '/' :: t).dropPrefix?
      "/contract/".toList = some ("web".toList ++ '/' :: ((c :: k') ++ '/' :: t)) := by
    have := @List.dropPrefix?_append_of_beq _ _ "/contract/".toList "/contract/".toList
      ("web/".toList ++ (c :: k') ++ '/' :: t) (by decide)
    simpa using this
  have hc : (c == '/') = false := not_slash_of_digit (hk c List.mem_cons_self)
  -- the four skips: the route's `web`, its slash, the key, the key's slash
  simp only [getFilePath, hstrip]
  rw [dropWhile_digits (forall_mem_alphabet_of_all (by decide)), List.cons_append,
    dropWhile_one_slash hc,
    ← List.cons_append, dropWhile_digits hk, List.dropWhile_cons_of_pos (by decide)]

/-- Which file the route serves, for every accepted key and every capture
whose re-formatted request parses: the web directory of the key joined with
`servedPart` of the capture. Nothing removes `..` components; without one the
file lies lexically below the web directory. -/
theorem webSubpages_file {κ : Type} (env : Env κ) (henv : env.Lawful)
    (k s : List Char) (file : Path) (h : webSubpages env k s = .ok file) :
    ∃ key, env.fromId k = .ok key ∧
      file = (contractWebPath env.tempDir (env.encodedContractId key)).join (servedPart s) ∧
      ((∀ q ∈ components (servedPart s), q ≠ parentDir) →
        file.Descendant (contractWebPath env.tempDir (env.encodedContractId key))) := by
  simp only [webSubpages, variableContent] at h
  cases hkey : env.fromId k with
  | error e => simp only [hkey, reduceCtorEq] at h
  | ok key =>
      obtain ⟨hk0, hk⟩ := henv.fromId_digits k key hkey
      cases huri : env.parseUri ("/contract/web/".toList ++ k ++ '/' :: s) with
      | error e => simp only [hkey, huri, reduceCtorEq] at h
      | ok u =>
          have hpath := henv.parseUri_path _ u (by simp) huri
          rw [takeWhile_requestPath hk] at hpath
          have hget : getFilePath u = .ok (servedPart s) := by
            rw [show u = ⟨u.path, u.text⟩ from rfl, hpath]
            exact getFilePath_requestPath hk0 hk _ _
          simp only [hkey, huri, hget, Except.ok.injEq] at h
          subst h
          refine ⟨key, rfl, rfl, fun hs => descendant_join _ _ ?_ hs⟩
          have := List.head?_dropWhile_not (· == '/')
            (s.takeWhile fun c => c != '?' && c != '#')
          intro hhead
          rw [servedPart] at hhead
          rw [hhead] at this
          simp at this

/-- `11…1`, thirty-two digits: the base58 form of the all-zero contract id. -/
def zeroKey : List Char := List.replicate 32 '1'

/-- An environment that does what the real decoder and parser do on the
requests below: the decoder accepts `zeroKey` and prints it back, the parser
keeps the text before `?` and `#` as the path, and the temporary directory is
`/tmp`. -/
def zeroKeyEnv : Env (List Char) where
  fromId k := if k = zeroKey then .ok k else .error "invalid key".toList
  encodedContractId k := k
  parseUri s := .ok ⟨s.takeWhile fun c => c != '?' && c != '#', s⟩
  tempDir := ⟨true, ["tmp".toList]⟩

theorem zeroKeyEnv_lawful : zeroKeyEnv.Lawful where
  fromId_digits k key h := by
    simp only [zeroKeyEnv] at h
    split at h
    · subst k
      exact ⟨by decide, forall_mem_alphabet_of_all (by decide)⟩
    · cases h
  parseUri_path s u _ h := by
    simp only [zeroKeyEnv, Except.ok.injEq] at h
    rw [← h]

/-- A capture `../x` leaves the web directory: the file served is
`/tmp/freenet/webs/<key>/x`, a sibling of `/tmp/freenet/webs/<key>/web`. -/
theorem webSubpages_parent_escapes :
    webSubpages zeroKeyEnv zeroKey "../x".toList =
        .ok ⟨true, ["tmp".toList, "freenet".toList, "webs".toList, zeroKey, "web".toList,
          "..".toList, "x".toList]⟩ ∧
      ¬ (Path.Descendant ⟨true, ["tmp".toList, "freenet".toList, "webs".toList, zeroKey,
          "web".toList, "..".toList, "x".toList]⟩
        (contractWebPath zeroKeyEnv.tempDir zeroKey)) := by
  decide

/-- A plain capture is served from inside the web directory. -/
theorem webSubpages_index_inside :
    webSubpages zeroKeyEnv zeroKey "index.html".toList =
        .ok ((contractWebPath zeroKeyEnv.tempDir zeroKey).join "index.html".toList) ∧
      ((contractWebPath zeroKeyEnv.tempDir zeroKey).join "index.html".toList).Descendant
        (contractWebPath zeroKeyEnv.tempDir zeroKey) := by
  have hserve : webSubpages zeroKeyEnv zeroKey "index.html".toList =
      .ok ((contractWebPath zeroKeyEnv.tempDir zeroKey).join "index.html".toList) := by
    decide
  obtain ⟨key, hkey, hfile, hbelow⟩ :=
    webSubpages_file zeroKeyEnv zeroKeyEnv_lawful zeroKey _ _ hserve
  have hk : key = zeroKey := by
    have : zeroKeyEnv.fromId zeroKey = .ok zeroKey := by decide
    rw [this, Except.ok.injEq] at hkey
    exact hkey.symm
  subst hk
  exact ⟨hserve, hbelow (by decide)⟩

end FreenetCore.Server
