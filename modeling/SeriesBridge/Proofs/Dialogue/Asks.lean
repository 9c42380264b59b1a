import SeriesBridge.Dialogue.Course
import SeriesBridge.Dialogue.Serve

/-! # What a dialogue may ask

A promise about the requests alone holds whatever the answers are, so no world is needed to state it.

* **`Dialogue.Asks P d post`** — every request of `d` is one of `P`, and its result is one of `post`.
* **`Dialogue.asks_bind`**, **`Dialogue.asks_left`** — dialogues in a row and dialogues among more
  requests.
* **`Dialogue.Asks.serve`** — a part that keeps a property of its state, for whoever asks it.
* **`Dialogue.Asks.of_reaches`**, **`Dialogue.Asks.of_runs`** — what is promised is true of every
  course, broken off or whole. -/

namespace SeriesBridge

variable {I J K : Interface} {S α β : Type}

namespace Dialogue

/-- **What a dialogue asks:** requests of `P` alone, however they are answered, and its result is one
of `post`. -/
def Asks (P : I.Request → Prop) : Dialogue I α → (α → Prop) → Prop
  | .done a, post => post a
  | .more q next, post => P q ∧ ∀ r, (next r).Asks P post

variable {P Q : I.Request → Prop}

/-- A dialogue that is done asks nothing. -/
@[simp] theorem asks_done {a : α} {post : α → Prop} :
    (Dialogue.done a : Dialogue I α).Asks P post ↔ post a := Iff.rfl

/-- A dialogue that asks goes on after every answer. -/
theorem asks_more {q : I.Request} {next : I.Answer q → Dialogue I α} {post : α → Prop} :
    (Dialogue.more q next).Asks P post ↔ P q ∧ ∀ r, (next r).Asks P post := Iff.rfl

/-- One request. -/
@[simp] theorem asks_ask {q : I.Request} {post : I.Answer q → Prop} :
    (ask q).Asks P post ↔ P q ∧ ∀ r, post r := Iff.rfl

/-- **A weaker promise is kept too.** -/
theorem Asks.mono {d : Dialogue I α} {post post' : α → Prop} (h : d.Asks P post)
    (hP : ∀ q, P q → Q q) (hpost : ∀ a, post a → post' a) : d.Asks Q post' := by
  induction d with
  | done a => exact hpost a h
  | more q next ih =>
      obtain ⟨hq, hnext⟩ := h
      exact ⟨hP q hq, fun r => ih r (hnext r)⟩

/-- **Two dialogues in a row.** -/
@[simp] theorem asks_bind {d : Dialogue I α} {f : α → Dialogue I β} {post : β → Prop} :
    (d >>= f).Asks P post ↔ d.Asks P (fun a => (f a).Asks P post) := by
  induction d with
  | done a => rfl
  | more q next ih =>
      rw [more_bind, asks_more, asks_more]
      exact and_congr_right fun _ => forall_congr' ih

/-- What the first of two dialogues promises is given to the second. -/
theorem Asks.bind {d : Dialogue I α} {f : α → Dialogue I β} {m : α → Prop} {post : β → Prop}
    (h : d.Asks P m) (hf : ∀ a, m a → (f a).Asks P post) : (d >>= f).Asks P post :=
  asks_bind.2 (h.mono (fun _ hq => hq) hf)

/-- A dialogue asks the same among more requests. -/
theorem asks_left {R : (I.sum J).Request → Prop} {d : Dialogue I α} {post : α → Prop} :
    (d.left (J := J)).Asks R post ↔ d.Asks (fun q => R (.inl q)) post := by
  induction d with
  | done a => rfl
  | more q next ih =>
      show (R (.inl q) ∧ ∀ r, ((next r).left (J := J)).Asks R post) ↔ _
      rw [asks_more]
      exact and_congr_right fun _ => forall_congr' ih

/-- **A part that answers:** if each of its answers asks requests of `P` alone and leaves a state of
`inv`, so does a dialogue that is served by it. Of the requests that are not for the part nothing is
said. -/
theorem Asks.serve (part : Server I K S) {P : K.Request → Prop} (inv : S → Prop)
    (hpart : ∀ q s, inv s → (part q s).Asks P (fun x => inv x.2)) (d : Dialogue (I.sum J) α) {s : S}
    (hs : inv s) :
    (d.serve part s).Asks (Sum.elim P (fun _ => True)) (fun x => inv x.2) := by
  induction d generalizing s with
  | done a => exact hs
  | more q next ih =>
      cases q with
      | inl q =>
          show (((part q s).left (J := J)) >>= fun x => (next x.1).serve part x.2).Asks _ _
          exact (asks_left.2 (hpart q s hs)).bind (fun x hx => ih x.1 hx)
      | inr q => exact ⟨trivial, fun r => ih r hs⟩

/-- **Nothing else is asked** in any course. -/
theorem Asks.of_reaches {d : Dialogue I α} {post : α → Prop} {t : List (Exchange I)}
    (h : d.Asks P post) (ht : Reaches d t) : ∀ e ∈ t, P e.request := by
  induction ht with
  | here d => simp
  | more r _ ih =>
      obtain ⟨hq, hnext⟩ := h
      exact List.forall_mem_cons.2 ⟨hq, ih (hnext r)⟩

/-- **At the end of every course the result is as promised.** -/
theorem Asks.of_runs {d : Dialogue I α} {post : α → Prop} {t : List (Exchange I)} {a : α}
    (h : d.Asks P post) (ht : Runs d t a) : post a := by
  induction ht with
  | done a => exact h
  | more r _ ih => exact ih (asks_more.1 h |>.2 r)

-- To open what a dialogue asks is to run the dialogue: from here on only the lemmas do.
attribute [irreducible] Asks

end Dialogue

end SeriesBridge
