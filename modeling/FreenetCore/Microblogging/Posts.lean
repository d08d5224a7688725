import FreenetCore.Lib.BinarySearch
import FreenetCore.Lib.Crypto
import FreenetCore.Stdlib.ContractInterface

/-!
The microblogging feed contract (`freenet-microblogging/contracts/posts`).

A feed is a list of posts. A post is known by `Post::hash`, the BLAKE3 hash
of its author, title and content fed to the hasher one after the other.
The summary of a feed is the list of its posts' hashes; `get_state_delta`
sends the posts whose hash the summary lacks, and `update_state` appends
each incoming post whose hash it does not find by binary search in the
feed, which it sorted by hash before the loop and appends to during it. A
post marked `mod_msg` must also carry the moderator's signature.

States, deltas and summaries are the values the contract decodes from its
JSON (`serde_json`, which decodes what it encodes); a summary that does not
decode, which `get_state_delta` takes as empty, is `none`. BLAKE3 is the
function `blake3` on the bytes fed to it: a hasher fed twice hashes the
concatenation. `serde_json::to_vec` of a post, the bytes a moderator signs,
is `toVec`. `update_state` reads only its first update, and panics (`none`)
when there is none or it is not a delta.
-/

namespace FreenetCore.Microblogging

open Crypto BinarySearch FreenetCore.WasmRuntime FreenetCore.Stdlib

/-- `str::as_bytes`: the UTF-8 bytes of a string. -/
def utf8 (s : String) : List UInt8 := s.toUTF8.data.toList

/-- `Post`. -/
structure Post where
  author : String
  title : String
  content : String
  modMsg : Bool
  signature : Option (List UInt8)
  deriving Inhabited

/-- `PostsFeed`. -/
structure PostsFeed where
  messages : List Post

/-- `FeedSummary`: the posts' hashes (`MessageSummary`). -/
structure FeedSummary where
  summaries : List Bytes32

/-- `Verification`: the moderator's key. -/
structure Verification where
  publicKey : List UInt8

instance : Inhabited Bytes32 := ⟨Bytes32.replicate 0⟩

/-- `Ord` of `[u8; 32]`: lexicographic. -/
def compareBytes : List UInt8 → List UInt8 → Ordering
  | [], [] => .eq
  | [], _ :: _ => .lt
  | _ :: _, [] => .gt
  | a :: as, b :: bs =>
      match compare a b with
      | .eq => compareBytes as bs
      | o => o

@[simp] theorem compareBytes_self (bs : List UInt8) : compareBytes bs bs = .eq := by
  induction bs with
  | nil => rfl
  | cons b bs ih => simp [compareBytes, ih]

section Feed

variable (blake3 : List UInt8 → Bytes32)

/-- `Post::hash`. -/
def Post.hash (p : Post) : Bytes32 := blake3 (utf8 p.author ++ utf8 p.title ++ utf8 p.content)

/-- `sort_by_cached_key(|m| m.hash())`, which sorts the pairs of key and
index and so keeps posts of one hash in their order. -/
def sortByHash (posts : List Post) : List Post :=
  posts.mergeSort fun a b => compareBytes (a.hash blake3).val (b.hash blake3).val != .gt

/-- `sort` of the summary's hashes. -/
def sortSummaries (summaries : List Bytes32) : List Bytes32 :=
  summaries.mergeSort fun a b => compareBytes a.val b.val != .gt

variable (rsa : SignatureScheme (List UInt8) (List UInt8)) (toVec : Post → List UInt8)

/-- `Verification::verify`: a post with the moderator's signature over its
JSON. -/
def Verification.verify (v : Verification) (msg : Post) : Bool :=
  match msg.signature with
  | some sig => rsa.verify v.publicKey (toVec msg) sig
  | none => false

/-- One incoming post of `update_state`'s loop. -/
def insertIncoming (verifier : Option Verification) (feed : List Post) (m : Post) : List Post :=
  if (binarySearchBy (fun o => compareBytes (o.hash blake3).val (m.hash blake3).val) feed).isOk then feed
  else if m.modMsg then
    match verifier with
    | some verifier => if verifier.verify rsa toVec m then feed ++ [m] else feed
    | none => feed
  else feed ++ [m]

/-- An update the contract is given. -/
abbrev PostsUpdate := UpdateData PostsFeed (List Post) (List UInt8)

/-- `PostsFeed::update_state`; the verifier is the parameters, when they
decode. -/
def updateState (verifier : Option Verification) (feed : PostsFeed) : List PostsUpdate → Option PostsFeed
  | .delta incoming :: _ =>
      some ⟨(sortByHash blake3 incoming).foldl (insertIncoming blake3 rsa toVec verifier)
        (sortByHash blake3 feed.messages)⟩
  | _ => none

/-- `PostsFeed::summarize_state`. -/
def summarizeState (feed : PostsFeed) : FeedSummary := ⟨feed.messages.map (·.hash blake3)⟩

/-- `PostsFeed::get_state_delta`: the posts whose hash the sorted summary
lacks. -/
def getStateDelta (feed : PostsFeed) (summary : Option FeedSummary) : List Post :=
  let summaries := sortSummaries ((summary.getD ⟨[]⟩).summaries)
  feed.messages.filter fun msg =>
    !(binarySearchBy (fun m => compareBytes m.val (msg.hash blake3).val) summaries).isOk

/-- `PostsFeed::validate_state`: every feed that decodes. -/
def validateState (_feed : PostsFeed) : Contract.ValidateResult := .valid

end Feed

section Lemmas

variable {blake3 : List UInt8 → Bytes32}

/-- Posts whose fields run into the same bytes have the same hash. -/
theorem hash_eq_of_bytes {p q : Post}
    (h : utf8 p.author ++ utf8 p.title ++ utf8 p.content = utf8 q.author ++ utf8 q.title ++ utf8 q.content) :
    p.hash blake3 = q.hash blake3 := by
  simp only [Post.hash, h]

/-- The search of a one-element list for the element's own key is a hit. -/
theorem binarySearchBy_singleton_self {α : Type} [Inhabited α] (f : α → Ordering) (x : α)
    (h : f x = .eq) : (binarySearchBy f [x]).isOk = true := by
  simp [binarySearchBy, searchFrom, h]
  rfl

end Lemmas

section Collisions

variable {blake3 : List UInt8 → Bytes32} {rsa : SignatureScheme (List UInt8) (List UInt8)}
  {toVec : Post → List UInt8}

/-- A post whose author, title and content run into the same bytes as a post
of the feed is never synchronised into it: it is not in the delta for the
feed's summary, and a delta holding it leaves the feed as it is. -/
theorem colliding_post_never_synced {p q : Post}
    (hbytes : utf8 p.author ++ utf8 p.title ++ utf8 p.content = utf8 q.author ++ utf8 q.title ++ utf8 q.content)
    (verifier : Option Verification) :
    getStateDelta blake3 ⟨[q]⟩ (some (summarizeState blake3 ⟨[p]⟩)) = [] ∧
    updateState blake3 rsa toVec verifier ⟨[p]⟩
        [.delta (getStateDelta blake3 ⟨[q]⟩ (some (summarizeState blake3 ⟨[p]⟩)))] = some ⟨[p]⟩ ∧
    updateState blake3 rsa toVec verifier ⟨[p]⟩ [.delta [q]] = some ⟨[p]⟩ := by
  have hhash : p.hash blake3 = q.hash blake3 := hash_eq_of_bytes hbytes
  -- the summary's one hash is `q`'s
  have hdelta : getStateDelta blake3 ⟨[q]⟩ (some (summarizeState blake3 ⟨[p]⟩)) = [] := by
    have hfound := binarySearchBy_singleton_self (fun m : Bytes32 => compareBytes m.val (q.hash blake3).val)
      (p.hash blake3) (by rw [hhash, compareBytes_self])
    simp [getStateDelta, summarizeState, sortSummaries, hfound]
  refine ⟨hdelta, ?_, ?_⟩
  · rw [hdelta]
    simp [updateState, sortByHash]
  · -- the feed's one post has `q`'s hash
    have hfound := binarySearchBy_singleton_self (fun o : Post => compareBytes (o.hash blake3).val (q.hash blake3).val)
      p (by rw [hhash, compareBytes_self])
    simp [updateState, sortByHash, insertIncoming, hfound]

theorem colliding_post_never_synced_abc :
    ("ab", "c", "x") ≠ ("a", "bc", "x") ∧
    getStateDelta (fun bs => Bytes32.replicate (bs.foldl (fun h b => h * 31 + b) 7))
        ⟨[⟨"a", "bc", "x", false, none⟩]⟩
        (some (summarizeState (fun bs => Bytes32.replicate (bs.foldl (fun h b => h * 31 + b) 7))
          ⟨[⟨"ab", "c", "x", false, none⟩]⟩)) = [] ∧
    updateState (fun bs => Bytes32.replicate (bs.foldl (fun h b => h * 31 + b) 7)) echoScheme (fun _ => []) none
        ⟨[⟨"ab", "c", "x", false, none⟩]⟩
        [.delta (getStateDelta (fun bs => Bytes32.replicate (bs.foldl (fun h b => h * 31 + b) 7))
          ⟨[⟨"a", "bc", "x", false, none⟩]⟩
          (some (summarizeState (fun bs => Bytes32.replicate (bs.foldl (fun h b => h * 31 + b) 7))
            ⟨[⟨"ab", "c", "x", false, none⟩]⟩)))] =
      some ⟨[⟨"ab", "c", "x", false, none⟩]⟩ ∧
    updateState (fun bs => Bytes32.replicate (bs.foldl (fun h b => h * 31 + b) 7)) echoScheme (fun _ => []) none
        ⟨[⟨"ab", "c", "x", false, none⟩]⟩ [.delta [⟨"a", "bc", "x", false, none⟩]] =
      some ⟨[⟨"ab", "c", "x", false, none⟩]⟩ :=
  ⟨by decide, colliding_post_never_synced (by decide) none⟩

end Collisions

end FreenetCore.Microblogging
