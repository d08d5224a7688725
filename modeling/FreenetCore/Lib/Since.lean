import Mathlib

/-!
Histories of events, and the runs of a step function over them.

A history is the list of events so far, oldest first. `Since h p q` holds
when some event of `h` satisfies `p`, given the events before it, and no
later event satisfies `q`: "`p` happened, and `q` has not happened since".
A state computed by a fold over the history is related to such statements
one event at a time through `since_snoc`.

A run is a history taken by a step function that may refuse an event,
`List.foldlM` in `Option`: what every step keeps, every run keeps
(`foldlM_invariant`), and an event refused from every such state refuses
the run (`foldlM_eq_none`); and where each step, from a state that the events so
far determine, accepts the next event into a state that the longer history
determines, the run accepts every history (`foldlM_exists`).

A sliding window of size `w` holds the last `w` events (`window`), and a
map counts a window when it has a count for each event of it and no other
key (`Counts`): a window moves by one event at the back and, once it is
over size, one at the front, and the counts move with it.
-/

namespace History

variable {α : Type*}

/-- Some event of `h` satisfies `p` given the events before it, and none of
the events after it satisfies `q`. -/
def Since (h : List α) (p : List α → α → Prop) (q : α → Prop) : Prop :=
  ∃ pre a post, h = pre ++ a :: post ∧ p pre a ∧ ∀ b ∈ post, ¬ q b

@[simp] theorem since_nil (p : List α → α → Prop) (q : α → Prop) : ¬ Since [] p q := by
  rintro ⟨pre, a, post, h, -⟩
  simp at h

/-- Where `pre ++ a :: post` ends in `e`: at `a` itself, or inside `post`. -/
theorem append_cons_eq_concat {pre post h : List α} {a e : α} :
    pre ++ a :: post = h ++ [e] ↔
      (pre = h ∧ a = e ∧ post = []) ∨ ∃ post', post = post' ++ [e] ∧ pre ++ a :: post' = h := by
  induction post using List.reverseRecOn with
  | nil => simp
  | append_singleton post' b _ =>
      rw [show pre ++ a :: (post' ++ [b]) = (pre ++ a :: post') ++ [b] by simp,
        List.append_singleton_inj]
      simp [and_comm]

/-- One more event: `p` happens now, or it happened before and this event
is not `q`. -/
@[simp] theorem since_snoc (h : List α) (e : α) (p : List α → α → Prop) (q : α → Prop) :
    Since (h ++ [e]) p q ↔ p h e ∨ (Since h p q ∧ ¬ q e) := by
  constructor
  · rintro ⟨pre, a, post, hsplit, hp, hq⟩
    rcases append_cons_eq_concat.mp hsplit.symm with ⟨rfl, rfl, rfl⟩ | ⟨post', rfl, hpre⟩
    · exact Or.inl hp
    · refine Or.inr ⟨⟨pre, a, post', hpre.symm, hp, fun b hb => hq b (by simp [hb])⟩, ?_⟩
      exact hq e (by simp)
  · rintro (hp | ⟨⟨pre, a, post, rfl, hp, hq⟩, hqe⟩)
    · exact ⟨h, e, [], rfl, hp, by simp⟩
    · refine ⟨pre, a, post ++ [e], by simp, hp, ?_⟩
      intro b hb
      rcases List.mem_append.mp hb with hb | hb
      · exact hq b hb
      · rw [List.mem_singleton.mp hb]; exact hqe

/-- What each step of a run keeps, the run keeps; a step may use that its
event is one of the run's. -/
theorem foldlM_invariant {σ : Type*} {step : σ → α → Option σ} (P : σ → Prop) {h : List α}
    (hstep : ∀ s e s', e ∈ h → P s → step s e = some s' → P s') {s s' : σ} (hs : P s)
    (hrun : h.foldlM step s = some s') : P s' := by
  induction h generalizing s with
  | nil =>
      cases hrun
      exact hs
  | cons e h ih =>
      obtain ⟨s₁, h₁, hrest⟩ := Option.bind_eq_some_iff.mp hrun
      exact ih (fun t e' t' he' => hstep t e' t' (List.mem_cons_of_mem e he'))
        (hstep s e s₁ List.mem_cons_self hs h₁) hrest

/-- A run refuses a history with an event that every step refuses from the
states that the steps keep. -/
theorem foldlM_eq_none {σ : Type*} {step : σ → α → Option σ} (P : σ → Prop) {h : List α}
    (hstep : ∀ s e s', e ∈ h → P s → step s e = some s' → P s') {e₀ : α} (he₀ : e₀ ∈ h)
    (hrefuse : ∀ s, P s → step s e₀ = none) {s : σ} (hs : P s) : h.foldlM step s = none := by
  induction h generalizing s with
  | nil => simp at he₀
  | cons e h ih =>
      rw [List.foldlM_cons]
      rcases List.mem_cons.mp he₀ with rfl | he₀
      · rw [hrefuse s hs]
        rfl
      · cases h₁ : step s e with
        | none => rfl
        | some s₁ =>
            exact ih (fun t e' t' he' => hstep t e' t' (List.mem_cons_of_mem e he')) he₀
              (hstep s e s₁ List.mem_cons_self hs h₁)

/-- Where each step accepts the next event from a state that the events so
far determine, into a state that the longer history determines, a run
accepts every history and ends in the state that the history determines. -/
theorem foldlM_exists {σ : Type*} {step : σ → α → Option σ} (P : List α → σ → Prop) {s₀ : σ}
    (h₀ : P [] s₀) (hstep : ∀ h e s, P h s → ∃ s', step s e = some s' ∧ P (h ++ [e]) s')
    (h : List α) : ∃ s, h.foldlM step s₀ = some s ∧ P h s := by
  -- the run from the state of a prefix `pre` ends in the state of `pre ++ h`
  suffices hrun : ∀ pre s, P pre s → ∃ s', h.foldlM step s = some s' ∧ P (pre ++ h) s' by
    simpa using hrun [] s₀ h₀
  induction h with
  | nil => exact fun pre s hs => ⟨s, rfl, by simpa using hs⟩
  | cons e h ih =>
      intro pre s hs
      obtain ⟨s₁, h₁, hs₁⟩ := hstep pre e s hs
      obtain ⟨s', hrun, hs'⟩ := ih (pre ++ [e]) s₁ hs₁
      exact ⟨s', by simp [h₁, hrun], by simpa using hs'⟩

/-! ### Sliding windows -/

/-- The last `w` events of `h`, oldest first. -/
def window (w : Nat) (h : List α) : List α := h.drop (h.length - w)

@[simp] theorem window_nil (w : Nat) : window w ([] : List α) = [] := by simp [window]

theorem length_window (w : Nat) (h : List α) : (window w h).length = min w h.length := by
  simp only [window, List.length_drop]
  omega

/-- One more event: it joins the window at the back, and the oldest event
leaves it once it is over size. -/
theorem window_concat (w : Nat) (h : List α) (e : α) :
    window w (h ++ [e]) =
      if w < (window w h ++ [e]).length then (window w h ++ [e]).tail else window w h ++ [e] := by
  unfold window
  rw [List.length_append, List.length_singleton, List.length_append, List.length_drop,
    List.length_singleton]
  by_cases hw : w ≤ h.length
  · rw [if_pos (by omega), show h.length + 1 - w = (h.length - w) + 1 by omega, ← List.tail_drop,
      List.drop_append_of_le_length (by omega)]
  · rw [if_neg (by omega), show h.length + 1 - w = 0 by omega, show h.length - w = 0 by omega,
      List.drop_zero, List.drop_zero]

/-- Where an event that satisfies `p` is preceded only by events that
satisfy it, as the expired entries of a log kept in time order are its
oldest, dropping them from the front drops all of them. -/
theorem dropWhile_eq_filter {R : α → α → Prop} {p : α → Bool} {h : List α} (hs : h.Pairwise R)
    (hp : ∀ a b, R a b → p b = true → p a = true) : h.dropWhile p = h.filter (fun a => !p a) := by
  induction h with
  | nil => rfl
  | cons a h ih =>
      rw [List.pairwise_cons] at hs
      by_cases ha : p a = true
      · rw [List.dropWhile_cons_of_pos ha, List.filter_cons_of_neg (by simp [ha]), ih hs.2]
      · rw [List.dropWhile_cons_of_neg ha, List.filter_cons_of_pos (by simpa using ha)]
        -- nothing after `a` satisfies `p` either
        rw [List.filter_eq_self.mpr fun b hb => by
          simpa using fun hpb => ha (hp a b (hs.1 b hb) hpb)]

section Counts

variable [DecidableEq α]

/-- `get` counts the events of `h`: it has their number of occurrences for
the events of `h`, and nothing for any other. -/
def Counts (get : α → Option Nat) (h : List α) : Prop :=
  ∀ a, get a = if a ∈ h then some (h.count a) else none

theorem counts_nil : Counts (fun _ => none) ([] : List α) := fun _ => by simp

/-- An event at the back: its count goes up by one, from none to one. -/
theorem Counts.concat {get get' : α → Option Nat} {h : List α} {e : α} (hc : Counts get h)
    (hget : ∀ a, get' a = if a = e then some ((get e).getD 0 + 1) else get a) :
    Counts get' (h ++ [e]) := by
  intro a
  rw [hget, hc a, hc e]
  by_cases hae : a = e
  · subst hae
    by_cases ha : a ∈ h <;> simp [ha, List.count_eq_zero_of_not_mem]
  · simp [hae, List.count_singleton, beq_false_of_ne (Ne.symm hae)]

/-- The event at the front leaves: its count goes down by one, and its key
goes with its last occurrence. -/
theorem Counts.pop {get get' : α → Option Nat} {h : List α} {e : α} (hc : Counts get (e :: h))
    (hget : ∀ a, get' a = if a = e then (if h.count e = 0 then none else some (h.count e))
      else get a) :
    Counts get' h := by
  intro a
  rw [hget, hc a]
  by_cases hae : a = e
  · subst hae
    by_cases ha : a ∈ h
    · simp [ha, List.count_eq_zero]
    · simp [ha, List.count_eq_zero_of_not_mem]
  · simp [hae, List.count_cons, beq_false_of_ne (Ne.symm hae)]

theorem Counts.get_of_mem {get : α → Option Nat} {h : List α} {a : α} (hc : Counts get h)
    (ha : a ∈ h) : get a = some (h.count a) := by
  rw [hc a, if_pos ha]

end Counts

end History
