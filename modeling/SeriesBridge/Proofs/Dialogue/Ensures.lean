import SeriesBridge.Dialogue.Course
import SeriesBridge.Dialogue.Serve

/-! # Dialogues in a world

What is true of a dialogue depends on how it is answered. A **`Behaviour`** says which answers a world
gives and what becomes of the world; `W` holds what matters of the world, so a behaviour may keep books
on what was asked as well as restrict what is answered.

* **`Behaviour.Follows B w t w'`** — the world can take the course `t` from `w` to `w'`.
* **`Dialogue.Ensures B safe d w post`** — in every course of `d` from `w` the world is `safe` after
  every answer, and `post` holds at the end.
* **`Dialogue.Ensures.of_reaches`**, **`Dialogue.Ensures.of_runs`** — what is ensured is true of every
  course, broken off or whole.
* **`Dialogue.ensures_bind`**, **`Dialogue.ensures_left`** — dialogues in a row and dialogues among
  more requests, for reasoning part by part. -/

namespace SeriesBridge

variable {I J K : Interface} {W S α β : Type}

/-- **How a world answers:** whether it may answer a request so, and what becomes of it. -/
abbrev Behaviour (I : Interface) (W : Type) : Type :=
  W → (q : I.Request) → I.Answer q → W → Prop

namespace Behaviour

/-- **The courses that a world can take.** -/
inductive Follows (B : Behaviour I W) : W → List (Exchange I) → W → Prop where
  | nil (w : W) : Follows B w [] w
  | cons {w w' w'' : W} {q : I.Request} {r : I.Answer q} {t : List (Exchange I)}
      (first : B w q r w') (rest : Follows B w' t w'') : Follows B w (⟨q, r⟩ :: t) w''

/-- The behaviour towards the requests of the first of two interfaces. -/
def left (B : Behaviour (I.sum J) W) : Behaviour I W := fun w q r w' => B w (.inl q) r w'

end Behaviour

namespace Dialogue

/-- **What a dialogue ensures:** after every answer that the world may give it is safe, and at the end
`post` holds of the world and the result. -/
def Ensures (B : Behaviour I W) (safe : W → Prop) :
    Dialogue I α → W → (W → α → Prop) → Prop
  | .done a, w, post => post w a
  | .more q next, w, post => ∀ r w', B w q r w' → safe w' ∧ (next r).Ensures B safe w' post

variable {B : Behaviour I W} {safe : W → Prop}

/-- A dialogue that is done ensures what holds of its result. -/
@[simp] theorem ensures_done {a : α} {w : W} {post : W → α → Prop} :
    (Dialogue.done a : Dialogue I α).Ensures B safe w post ↔ post w a := Iff.rfl

/-- A dialogue that asks ensures what it ensures after every answer. -/
theorem ensures_more {q : I.Request} {next : I.Answer q → Dialogue I α} {w : W}
    {post : W → α → Prop} :
    (Dialogue.more q next).Ensures B safe w post ↔
      ∀ r w', B w q r w' → safe w' ∧ (next r).Ensures B safe w' post := Iff.rfl

/-- One request ensures what holds of its answers. -/
@[simp] theorem ensures_ask {q : I.Request} {w : W} {post : W → I.Answer q → Prop} :
    (ask q).Ensures B safe w post ↔ ∀ r w', B w q r w' → safe w' ∧ post w' r := Iff.rfl

/-- **A weaker statement is ensured too.** -/
theorem Ensures.mono {d : Dialogue I α} {w : W} {post post' : W → α → Prop}
    (h : d.Ensures B safe w post) (hpost : ∀ w a, post w a → post' w a) :
    d.Ensures B safe w post' := by
  induction d generalizing w with
  | done a => exact hpost w a h
  | more q next ih =>
      intro r w' hB
      obtain ⟨hsafe, hnext⟩ := h r w' hB
      exact ⟨hsafe, ih r hnext⟩

/-- **Two dialogues in a row:** the first ensures that the second ensures it. -/
@[simp] theorem ensures_bind {d : Dialogue I α} {f : α → Dialogue I β} {w : W}
    {post : W → β → Prop} :
    (d >>= f).Ensures B safe w post ↔
      d.Ensures B safe w (fun w' a => (f a).Ensures B safe w' post) := by
  induction d generalizing w with
  | done a => rfl
  | more q next ih =>
      rw [more_bind, ensures_more, ensures_more]
      constructor
      · intro h r w' hB
        exact ⟨(h r w' hB).1, ih r |>.1 (h r w' hB).2⟩
      · intro h r w' hB
        exact ⟨(h r w' hB).1, ih r |>.2 (h r w' hB).2⟩

/-- What the first of two dialogues ensures is given to the second. -/
theorem Ensures.bind {d : Dialogue I α} {f : α → Dialogue I β} {w : W}
    {m : W → α → Prop} {post : W → β → Prop} (h : d.Ensures B safe w m)
    (hf : ∀ w' a, m w' a → (f a).Ensures B safe w' post) :
    (d >>= f).Ensures B safe w post :=
  ensures_bind.2 (h.mono hf)

/-- **Two ways to the same continuation,** each of which ensures what it needs. -/
theorem Ensures.ite_bind {b : Bool} {d e : Dialogue I α} {f : α → Dialogue I β} {w : W}
    {m : W → α → Prop} {post : W → β → Prop} (hd : b = true → d.Ensures B safe w m)
    (he : b = false → e.Ensures B safe w m)
    (hf : ∀ w' a, m w' a → (f a).Ensures B safe w' post) :
    (if b = true then d >>= f else e >>= f).Ensures B safe w post := by
  cases b with
  | true => exact (hd rfl).bind hf
  | false => exact (he rfl).bind hf

/-- A dialogue that asks for one thing alone ensures the same among more requests. -/
theorem ensures_left {C : Behaviour (I.sum J) W} {d : Dialogue I α} {w : W}
    {post : W → α → Prop} :
    (d.left (J := J)).Ensures C safe w post ↔ d.Ensures C.left safe w post := by
  induction d generalizing w with
  | done a => rfl
  | more q next ih =>
      show (∀ r w', C w (.inl q) r w' → safe w' ∧ ((next r).left (J := J)).Ensures C safe w' post) ↔ _
      rw [ensures_more]
      constructor
      · intro h r w' hB
        exact ⟨(h r w' hB).1, ih r |>.1 (h r w' hB).2⟩
      · intro h r w' hB
        exact ⟨(h r w' hB).1, ih r |>.2 (h r w' hB).2⟩

/-! ## Served dialogues -/

/-- **Two served dialogues in a row:** the second goes on with the state that the first leaves. -/
theorem ensures_serve_bind {part : Server I K S} {C : Behaviour (K.sum J) W}
    {d : Dialogue (I.sum J) α} {f : α → Dialogue (I.sum J) β} {s : S} {w : W}
    {post : W → β × S → Prop} :
    ((d >>= f).serve part s).Ensures C safe w post ↔
      (d.serve part s).Ensures C safe w
        (fun w' served => ((f served.1).serve part served.2).Ensures C safe w' post) := by
  rw [serve_bind, ensures_bind]

/-- What a part ensures when it answers, its request ensures. -/
theorem ensures_serve_inl {part : Server I K S} {C : Behaviour (K.sum J) W} {q : I.Request} {s : S}
    {w : W} {post : W → I.Answer q × S → Prop} :
    ((ask (I := I.sum J) (.inl q)).serve part s).Ensures C safe w post ↔
      (part q s).Ensures C.left safe w post := by
  have h : (ask (I := I.sum J) (.inl q)).serve part s = (part q s).left := bind_done _
  exact (Iff.of_eq (congrArg (fun d => d.Ensures C safe w post) h)).trans ensures_left

/-- A request that is not for the part is answered by the world, and the state stays. -/
theorem ensures_serve_inr {part : Server I K S} {C : Behaviour (K.sum J) W} {q : J.Request} {s : S}
    {w : W} {post : W → J.Answer q × S → Prop} :
    ((ask (I := I.sum J) (.inr q)).serve part s).Ensures C safe w post ↔
      ∀ r w', C w (.inr q) r w' → safe w' ∧ post w' (r, s) := Iff.rfl

/-! ## What is ensured is true -/

/-- **At every moment of every course the world is safe.** -/
theorem Ensures.of_reaches {d : Dialogue I α} {w w' : W} {t : List (Exchange I)}
    {post : W → α → Prop} (h : d.Ensures B safe w post) (hw : safe w) (ht : Reaches d t)
    (hB : B.Follows w t w') : safe w' := by
  induction ht generalizing w with
  | here d =>
      cases hB
      exact hw
  | more r rest ih =>
      cases hB with
      | cons first follows =>
          obtain ⟨hsafe, hnext⟩ := ensures_more.1 h r _ first
          exact ih hnext hsafe follows

/-- **At the end of every course the result is as ensured.** -/
theorem Ensures.of_runs {d : Dialogue I α} {w w' : W} {t : List (Exchange I)} {a : α}
    {post : W → α → Prop} (h : d.Ensures B safe w post) (ht : Runs d t a)
    (hB : B.Follows w t w') : post w' a := by
  induction ht generalizing w with
  | done a =>
      cases hB
      exact ensures_done.1 h
  | more r rest ih =>
      cases hB with
      | cons first follows => exact ih (ensures_more.1 h r _ first).2 follows

-- To open what a dialogue ensures is to run the dialogue: from here on only the lemmas do.
attribute [irreducible] Ensures

end Dialogue

end SeriesBridge
