import SeriesBridge.Dialogue.Basic

/-! # Serving a dialogue

One part of the bridge asks and another part answers. The answering part has a state, and may hold a
dialogue of its own before it answers.

* **`Dialogue.serve`** — let a part answer the requests of the first of two interfaces.
* **`Dialogue.serveBoth`** — let two parts answer the requests of two interfaces. -/

namespace SeriesBridge

/-- **A part that answers** the requests of `I` from a state, and asks requests of `K` to do so. -/
abbrev Server (I K : Interface) (S : Type) := (q : I.Request) → S → Dialogue K (I.Answer q × S)

namespace Dialogue

variable {I J K : Interface} {S T α β : Type}

/-- **Let a part answer the first interface.** What it asks takes the place of what it is asked. -/
def serve (part : Server I K S) : Dialogue (I.sum J) α → S → Dialogue (K.sum J) (α × S)
  | .done a, s => .done (a, s)
  | .more (.inl q) next, s =>
      (part q s).left.andThen (fun answered => (next answered.1).serve part answered.2)
  | .more (.inr q) next, s => .more (.inr q) (fun r => (next r).serve part s)

/-- A dialogue that is done asks nothing of the part. -/
@[simp] theorem serve_done (part : Server I K S) (a : α) (s : S) :
    (Dialogue.done a : Dialogue (I.sum J) α).serve part s = .done (a, s) := rfl

/-- **Two dialogues in a row** are served one after the other. -/
theorem serve_bind (part : Server I K S) (d : Dialogue (I.sum J) α)
    (f : α → Dialogue (I.sum J) β) (s : S) :
    (d >>= f).serve part s =
      d.serve part s >>= fun served => (f served.1).serve part served.2 := by
  induction d generalizing s with
  | done a => rfl
  | more q next ih =>
      cases q with
      | inl q =>
          have h : ∀ x : Dialogue (K.sum J) (I.Answer q × S),
              x.andThen (fun answered =>
                ((next answered.1) >>= f).serve part answered.2) =
              (x.andThen (fun answered => (next answered.1).serve part answered.2)) >>=
                fun served => (f served.1).serve part served.2 := by
            intro x
            have := bind_bind x (fun answered => (next answered.1).serve part answered.2)
              (fun served => (f served.1).serve part served.2)
            exact (congrArg (x.andThen ·) (funext fun answered => ih _ _)).trans this.symm
          exact h _
      | inr q =>
          exact congrArg (Dialogue.more (I := K.sum J) (.inr q)) (funext fun r => ih r s)

/-- **Let two parts answer two interfaces.** -/
def serveBoth (first : Server I K S) (second : Server J K T) :
    Dialogue (I.sum J) α → S → T → Dialogue K (α × S × T)
  | .done a, s, t => .done (a, s, t)
  | .more (.inl q) next, s, t =>
      (first q s).andThen (fun answered => (next answered.1).serveBoth first second answered.2 t)
  | .more (.inr q) next, s, t =>
      (second q t).andThen (fun answered => (next answered.1).serveBoth first second s answered.2)

/-- A dialogue that is done asks nothing of the parts. -/
@[simp] theorem serveBoth_done (first : Server I K S) (second : Server J K T) (a : α) (s : S)
    (t : T) :
    (Dialogue.done a : Dialogue (I.sum J) α).serveBoth first second s t = .done (a, s, t) := rfl

end Dialogue

end SeriesBridge
