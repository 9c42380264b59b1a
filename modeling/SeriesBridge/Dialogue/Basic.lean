/-! # Dialogues

A part of the bridge that needs the outside world, a database, a clock or a stream of records, is a
**dialogue** with it: it asks a request, is answered, and goes on. What may be asked and how it may
be answered is an **`Interface`**; who answers is left open. So one definition serves a real server,
a simulated one, and statements about every course that things can take.

* **`Dialogue I α`** — a computation of an `α` that asks requests of `I`.
* **`Dialogue.ask q`** — the dialogue of one request.
* **`Dialogue.run answer d`** — carry a dialogue out in a monad that answers requests. -/

namespace SeriesBridge

/-- **What may be asked,** and what an answer to each request is. -/
structure Interface where
  Request : Type
  Answer : Request → Type

/-- Requests of either of two interfaces. -/
def Interface.sum (I J : Interface) : Interface where
  Request := I.Request ⊕ J.Request
  Answer
    | .inl q => I.Answer q
    | .inr q => J.Answer q

/-- **A dialogue:** it is done, or it asks a request and goes on with the answer. -/
inductive Dialogue (I : Interface) (α : Type) : Type where
  | done (a : α)
  | more (q : I.Request) (next : I.Answer q → Dialogue I α)

namespace Dialogue

variable {I J : Interface} {α β : Type}

/-- The dialogue of one request. -/
def ask (q : I.Request) : Dialogue I (I.Answer q) := .more q .done

/-- Go on with the result of a dialogue. -/
def andThen : Dialogue I α → (α → Dialogue I β) → Dialogue I β
  | .done a, f => f a
  | .more q next, f => .more q (fun r => (next r).andThen f)

instance : Monad (Dialogue I) where
  pure := .done
  bind := andThen

/-- A dialogue that is done passes its result on. -/
@[simp] theorem done_bind (a : α) (f : α → Dialogue I β) : (Dialogue.done a >>= f) = f a := rfl

/-- A result by itself is a dialogue that is done. -/
@[simp] theorem pure_eq_done (a : α) : (pure a : Dialogue I α) = .done a := rfl

/-- A dialogue that asks goes on after its answer. -/
@[simp] theorem more_bind (q : I.Request) (next : I.Answer q → Dialogue I α)
    (f : α → Dialogue I β) :
    (Dialogue.more q next >>= f) = .more q (fun r => next r >>= f) := rfl

/-- Nothing is added by passing a result on as it is. -/
theorem bind_done (d : Dialogue I α) : (d >>= Dialogue.done) = d := by
  induction d with
  | done a => rfl
  | more q next ih => simp [ih]

/-- Only the order of three dialogues counts. -/
theorem bind_bind {γ : Type} (d : Dialogue I α) (f : α → Dialogue I β) (g : β → Dialogue I γ) :
    (d >>= f >>= g) = (d >>= fun a => f a >>= g) := by
  induction d with
  | done a => rfl
  | more q next ih => simp [ih]

instance : LawfulMonad (Dialogue I) :=
  LawfulMonad.mk' (Dialogue I) bind_done (fun _ _ => rfl) bind_bind

/-- **Carry a dialogue out.** -/
def run {m : Type → Type} [Monad m] (answer : (q : I.Request) → m (I.Answer q)) :
    Dialogue I α → m α
  | .done a => pure a
  | .more q next => do
      let r ← answer q
      (next r).run answer

/-- The same dialogue where more may be asked. -/
def left (d : Dialogue I α) : Dialogue (I.sum J) α := d.run (fun q => ask (I := I.sum J) (.inl q))

/-- The same dialogue where more may be asked. -/
def right (d : Dialogue J α) : Dialogue (I.sum J) α := d.run (fun q => ask (I := I.sum J) (.inr q))

end Dialogue

end SeriesBridge
