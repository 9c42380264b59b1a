import SeriesBridge.Proofs.Dialogue.Ensures

/-! # Requests beside others

A dialogue asks requests of two interfaces, and only what is asked of the first matters to a world. Of
the other requests it notes one thing: whether one of them was marked.

* **`Exchange.lefts t`**, **`Exchange.marked mark t`** — what is left of a course.
* **`Behaviour.beside B mark`** — the world that answers the first interface as `B` does.
* **`Behaviour.Follows.beside`** — it can take a course when `B` can take what is left of it.
* **`Dialogue.Ensures.beside`**, **`Dialogue.ensures_served_call`**, **`Dialogue.ensures_served_other`**
  — what a dialogue ensures in `B` it ensures beside other requests. -/

namespace SeriesBridge

variable {I J K : Interface} {W S α β : Type}

/-! ## Courses -/

namespace Exchange

/-- The exchange of the first of two interfaces, if it is one. -/
def left? : Exchange (K.sum J) → Option (Exchange K)
  | ⟨.inl q, r⟩ => some ⟨q, r⟩
  | ⟨.inr _, _⟩ => none

/-- **The exchanges of the first of two interfaces.** -/
def lefts (t : List (Exchange (K.sum J))) : List (Exchange K) := t.filterMap left?

/-- Whether a request of the second interface is marked. -/
def isMarked (mark : J.Request → Bool) (e : Exchange (K.sum J)) : Bool :=
  e.request.elim (fun _ => false) mark

/-- **Whether a marked request was asked.** -/
def marked (mark : J.Request → Bool) (t : List (Exchange (K.sum J))) : Bool := t.any (isMarked mark)

end Exchange

namespace Behaviour

/-- **The world beside other requests:** it answers the first interface as `B` does, and of the second
it notes whether a marked request was asked. -/
def beside (B : Behaviour K W) (mark : J.Request → Bool) : Behaviour (K.sum J) (W × Bool)
  | w, .inl q, r, w' => B w.1 q r w'.1 ∧ w'.2 = w.2
  | w, .inr q, _, w' => w' = (w.1, w.2 || mark q)

/-- **It can take a course** when `B` can take the exchanges that are for it. -/
theorem Follows.beside {B : Behaviour K W} {mark : J.Request → Bool} {w w' : W} (b : Bool)
    {t : List (Exchange (K.sum J))} (h : B.Follows w (Exchange.lefts t) w') :
    (B.beside mark).Follows (w, b) t (w', b || Exchange.marked mark t) := by
  induction t generalizing w b with
  | nil =>
      cases h
      rw [Exchange.marked, List.any_nil, Bool.or_false]
      exact .nil _
  | cons e t ih =>
      obtain ⟨q | q, r⟩ := e
      · cases h with
        | @cons _ w₁ _ _ _ _ first follows =>
            have hfirst : B.beside mark (w, b) (.inl q) r (w₁, b) := ⟨first, rfl⟩
            exact .cons hfirst (ih b follows)
      · have hrest := ih (b || mark q) h
        rw [Bool.or_assoc] at hrest
        exact .cons rfl hrest

end Behaviour

/-! ## Dialogues -/

namespace Dialogue

variable {B : Behaviour K W} {safe : W → Prop} {mark : J.Request → Bool} {w : W} {b : Bool}

/-- **What a dialogue ensures, it ensures beside other requests,** and marks none of them. -/
theorem Ensures.beside {d : Dialogue K α} {post : W → α → Prop} (h : d.Ensures B safe w post) :
    d.Ensures (B.beside mark).left (fun w => safe w.1) (w, b)
      (fun w a => post w.1 a ∧ w.2 = b) := by
  induction d generalizing w with
  | done a => exact ensures_done.2 ⟨ensures_done.1 h, rfl⟩
  | more q next ih =>
      refine ensures_more.2 ?_
      rintro r ⟨w', b'⟩ ⟨hB, rfl⟩
      obtain ⟨hsafe, hnext⟩ := ensures_more.1 h r w' hB
      exact ⟨hsafe, ih r hnext⟩

/-- **A call on a part** ensures what the part ensures when it answers. -/
theorem ensures_served_call {part : Server I K S} {q : I.Request}
    {f : I.Answer q → Dialogue (I.sum J) α} {s : S} {m : W → I.Answer q × S → Prop}
    {post : W × Bool → α × S → Prop} (h : (part q s).Ensures B safe w m)
    (hf : ∀ w' r s', m w' (r, s') → ((f r).serve part s').Ensures (B.beside mark)
      (fun w => safe w.1) (w', b) post) :
    ((ask (I := I.sum J) (.inl q) >>= f).serve part s).Ensures (B.beside mark) (fun w => safe w.1)
      (w, b) post := by
  refine ensures_serve_bind.2 ((ensures_serve_inl.2 h.beside).mono ?_)
  rintro ⟨w', b'⟩ ⟨r, s'⟩ ⟨hm, rfl⟩
  exact hf w' r s' hm

/-- **Another request** changes nothing but that it may be marked. -/
theorem ensures_served_other {part : Server I K S} {q : J.Request}
    {f : J.Answer q → Dialogue (I.sum J) α} {s : S} {post : W × Bool → α × S → Prop} (hw : safe w)
    (h : ∀ r, ((f r).serve part s).Ensures (B.beside mark) (fun w => safe w.1) (w, b || mark q)
      post) :
    ((ask (I := I.sum J) (.inr q) >>= f).serve part s).Ensures (B.beside mark) (fun w => safe w.1)
      (w, b) post := by
  refine ensures_serve_bind.2 (ensures_serve_inr.2 ?_)
  rintro r _ rfl
  exact ⟨hw, h r⟩

end Dialogue

end SeriesBridge
