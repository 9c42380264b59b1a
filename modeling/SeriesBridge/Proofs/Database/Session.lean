import SeriesBridge.Database.Cache
import SeriesBridge.Proofs.Dialogue.Ensures

/-! # Keeping a session ready

What it takes to have a session, opening, probing, setting up and closing, is all the same to whoever
keeps books on what is written and read. A behaviour is **`Steady`** when such calls move the world
along a given relation only and fail with given errors only.

* **`LinkCall.keepsSession`** — the calls that only keep a session ready.
* **`ensures_validated`**, **`ensures_setDatabase`**, **`ensures_close`** — under a steady behaviour
  these move the world along the relation, and fail with the given errors.
* **`ensures_use`** — a call on a session that is ready. -/

namespace SeriesBridge

/-- Whether a call only keeps a session ready: it writes no lines, and all it reads is the probe. -/
def LinkCall.keepsSession : LinkCall → Bool
  | .database (.write ..) => false
  | .database (.query _ sql) => sql = Cache.probe
  | _ => true

variable {W : Type}

/-- **A behaviour towards a session that is kept ready:** from safe worlds it moves along `R` to safe
worlds, and the failures to have a session are among `E`. -/
structure Steady (B : Behaviour Link W) (safe : W → Prop) (R : W → W → Prop)
    (E : Error → Prop) : Prop where
  refl : ∀ w, R w w
  trans : ∀ {w₁ w₂ w₃}, R w₁ w₂ → R w₂ w₃ → R w₁ w₃
  step : ∀ {w : W} {q : LinkCall} {r : q.Answer} {w' : W}, q.keepsSession → safe w → B w q r w' →
    safe w' ∧ R w w'
  connect : ∀ {w w' : W} {session : Nat} {endpoint : Endpoint} {credentials : Credentials}
    {e : Error}, B w (.database (.connect session endpoint credentials)) (Except.error e) w' →
    E e ∧ ∀ n, E (.connection n e)
  execute : ∀ {w w' : W} {session : Nat} {sql : String} {e : Error},
    B w (.database (.execute session sql)) (Except.error e) w' → ∀ what, E (.statement what e)
  select : ∀ {w w' : W} {session : Nat} {name : String} {e : Error},
    B w (.database (.select session name)) (Except.error e) w' → ∀ what, E (.statement what e)

/-- A failure is among `E`. -/
def FailsWith {α : Type} (E : Error → Prop) (result : Outcome α) : Prop :=
  ∀ e, result = .error e → E e

/-- A success does not fail. -/
@[simp] theorem failsWith_ok {α : Type} {E : Error → Prop} {a : α} :
    FailsWith E (.ok a : Outcome α) := by
  intro e h
  cases h

/-- A failure is among `E` when its error is. -/
@[simp] theorem failsWith_error {α : Type} {E : Error → Prop} {e : Error} :
    FailsWith E (.error e : Outcome α) ↔ E e := by
  constructor
  · intro h; exact h e rfl
  · intro h e' he; cases he; exact h

namespace Steady

open Dialogue

variable {B : Behaviour Link W} {safe : W → Prop} {R : W → W → Prop} {E : Error → Prop}

/-- A call that keeps a session ready moves the world along `R`. -/
theorem ensures_ask (h : Steady B safe R E) {w : W} {q : LinkCall} (hq : q.keepsSession)
    (hw : safe w) : (ask (I := Link) q).Ensures B safe w (fun w' r => safe w' ∧ R w w' ∧ B w q r w') := by
  refine Dialogue.ensures_ask.2 ?_
  intro r w' hB
  obtain ⟨hsafe, hR⟩ := h.step hq hw hB
  exact ⟨hsafe, hsafe, hR, hB⟩

/-- A session is opened, or none of the attempts succeeds. -/
theorem ensures_connectFrom (h : Steady B safe R E) (p : Provider) (session attempt left : Nat)
    {w : W} (hw : safe w) :
    (p.connectFrom session attempt left).Ensures B safe w
      (fun w' result => safe w' ∧ R w w' ∧ FailsWith E result) := by
  induction left generalizing attempt w with
  | zero =>
      refine (h.ensures_ask rfl hw).bind ?_
      rintro w' (e | _) ⟨hsafe, hR, hB⟩
      · refine ensures_done.2 ⟨hsafe, hR, ?_⟩
        by_cases he : e.isRetryable
        · rw [if_pos he]; exact failsWith_error.2 ((h.connect hB).2 attempt)
        · rw [if_neg he]; exact failsWith_error.2 (h.connect hB).1
      · exact ensures_done.2 ⟨hsafe, hR, failsWith_ok⟩
  | succ left ih =>
      refine (h.ensures_ask rfl hw).bind ?_
      rintro w' (e | _) ⟨hsafe, hR, hB⟩
      · by_cases he : e.isRetryable
        · simp only [if_pos he]
          refine (h.ensures_ask rfl hsafe).bind ?_
          rintro w'' _ ⟨hsafe', hR', -⟩
          refine (ih (attempt + 1) hsafe').mono ?_
          rintro w₃ result ⟨hsafe'', hR'', hfail⟩
          exact ⟨hsafe'', h.trans hR (h.trans hR' hR''), hfail⟩
        · simp only [if_neg he]
          exact ensures_done.2 ⟨hsafe, hR, failsWith_error.2 (h.connect hB).1⟩
      · exact ensures_done.2 ⟨hsafe, hR, failsWith_ok⟩

/-- Setting up a database keeps the session ready. -/
theorem ensures_setUp (h : Steady B safe R E) (session : Nat) (name : String)
    (precision : Precision) {w : W} (hw : safe w) :
    (Cache.setUp session name precision).Ensures B safe w
      (fun w' result => safe w' ∧ R w w' ∧ FailsWith E result) := by
  refine (h.ensures_ask rfl hw).bind ?_
  rintro w' (e | _) ⟨hsafe, hR, hB⟩
  · exact ensures_done.2 ⟨hsafe, hR, failsWith_error.2 (h.execute hB _)⟩
  · refine (h.ensures_ask rfl hsafe).bind ?_
    rintro w'' (e | _) ⟨hsafe', hR', hB'⟩
    · exact ensures_done.2 ⟨hsafe', h.trans hR hR', failsWith_error.2 (h.select hB' _)⟩
    · exact ensures_done.2 ⟨hsafe', h.trans hR hR', failsWith_ok⟩

/-- Giving a session up leaves none. -/
theorem ensures_close (h : Steady B safe R E) (c : Cache) {w : W} (hw : safe w) :
    c.close.Ensures B safe w (fun w' _ => safe w' ∧ R w w') := by
  unfold Cache.close
  cases c.held with
  | none => exact ensures_done.2 ⟨hw, h.refl w⟩
  | some session =>
      refine (h.ensures_ask rfl hw).bind ?_
      rintro w' _ ⟨hsafe, hR, -⟩
      exact ensures_done.2 ⟨hsafe, hR⟩

/-- Taking a reading keeps a session ready. -/
theorem ensures_noteReplaced (h : Steady B safe R E) (c : Cache) (replacing : Bool) {w : W}
    (hw : safe w) :
    (c.noteReplaced replacing).Ensures B safe w (fun w' _ => safe w' ∧ R w w') := by
  unfold Cache.noteReplaced
  cases c.meter with
  | none => exact ensures_done.2 ⟨hw, h.refl w⟩
  | some meter =>
      cases replacing with
      | false => exact ensures_done.2 ⟨hw, h.refl w⟩
      | true =>
          refine (h.ensures_ask rfl hw).mono ?_
          rintro w' _ ⟨hsafe, hR, -⟩
          exact ⟨hsafe, hR⟩

/-- A session that cannot be used is replaced by one that is held, or by none. -/
theorem ensures_reconnect (h : Steady B safe R E) (c : Cache) {w : W} (hw : safe w) :
    c.reconnect.Ensures B safe w (fun w' x => safe w' ∧ R w w' ∧ FailsWith E x.1 ∧
      (x.1 = .ok () → x.2.held.isSome)) := by
  unfold Cache.reconnect
  refine (h.ensures_close c hw).bind ?_
  rintro w₁ c₁ ⟨hsafe₁, hR₁⟩
  refine (h.ensures_connectFrom c₁.provider c₁.opened 1 _ hsafe₁).bind ?_
  rintro w₂ (e | _) ⟨hsafe₂, hR₂, hfail⟩
  · exact ensures_done.2 ⟨hsafe₂, h.trans hR₁ hR₂, hfail, by simp⟩
  · -- The database of the old session is set up on the new one, if there was one.
    refine Ensures.bind (m := fun w' result => safe w' ∧ R w₂ w' ∧ FailsWith E result) ?_ ?_
    · cases c₁.database with
      | none => exact ensures_done.2 ⟨hsafe₂, h.refl w₂, failsWith_ok⟩
      | some name => exact h.ensures_setUp c₁.opened name c₁.precision hsafe₂
    rintro w₃ (e | _) ⟨hsafe₃, hR₃, hfail₃⟩
    · refine (h.ensures_ask rfl hsafe₃).bind ?_
      rintro w₄ _ ⟨hsafe₄, hR₄, -⟩
      exact ensures_done.2 ⟨hsafe₄, h.trans hR₁ (h.trans hR₂ (h.trans hR₃ hR₄)), hfail₃, by simp⟩
    · refine (h.ensures_noteReplaced _ c.held.isSome hsafe₃).bind ?_
      rintro w₄ _ ⟨hsafe₄, hR₄⟩
      exact ensures_done.2 ⟨hsafe₄, h.trans hR₁ (h.trans hR₂ (h.trans hR₃ hR₄)), failsWith_ok, by simp⟩

/-- The probe tells whether a session is held that answers. -/
theorem ensures_answersProbe (h : Steady B safe R E) (c : Cache) {w : W} (hw : safe w) :
    c.answersProbe.Ensures B safe w
      (fun w' answers => safe w' ∧ R w w' ∧ (answers = true → c.held.isSome)) := by
  unfold Cache.answersProbe
  cases hheld : c.held with
  | none => exact ensures_done.2 ⟨hw, h.refl w, by simp⟩
  | some session =>
      refine (h.ensures_ask (by simp [LinkCall.keepsSession]) hw).bind ?_
      rintro w' (e | _) ⟨hsafe, hR, -⟩
      · exact ensures_done.2 ⟨hsafe, hR, by simp⟩
      · exact ensures_done.2 ⟨hsafe, hR, by simp⟩

/-- **There is a session to use,** or the failure to have one is among `E`. -/
theorem ensures_validated (h : Steady B safe R E) (c : Cache) {w : W} (hw : safe w) :
    c.validated.Ensures B safe w (fun w' x => safe w' ∧ R w w' ∧ FailsWith E x.1) := by
  unfold Cache.validated
  refine (h.ensures_answersProbe c hw).bind ?_
  rintro w₁ answers ⟨hsafe₁, hR₁, hanswers⟩
  -- Whichever way there is a session, it is the one that is held.
  refine Ensures.ite_bind (m := fun w' (x : Outcome Unit × Cache) => safe w' ∧ R w w' ∧
    FailsWith E x.1 ∧ (x.1 = .ok () → x.2.held.isSome)) ?_ ?_ ?_
  · intro hanswers'
    exact ensures_done.2 ⟨hsafe₁, hR₁, failsWith_ok, fun _ => hanswers hanswers'⟩
  · intro _
    refine (h.ensures_reconnect c hsafe₁).mono ?_
    rintro w₂ x ⟨hsafe₂, hR₂, hx⟩
    exact ⟨hsafe₂, h.trans hR₁ hR₂, hx⟩
  · rintro w₂ ⟨result, c₂⟩ ⟨hsafe₂, hR₂, hfail, hheld⟩
    cases result with
    | error e => exact ensures_done.2 ⟨hsafe₂, hR₂, failsWith_error.2 (failsWith_error.1 hfail)⟩
    | ok _ =>
        obtain ⟨session, hsession⟩ := Option.isSome_iff_exists.1 (hheld rfl)
        simp only at hsession
        simp only [hsession]
        exact ensures_done.2 ⟨hsafe₂, hR₂, failsWith_ok⟩

/-- **Working on a database** keeps a session ready. -/
theorem ensures_setDatabase (h : Steady B safe R E) (c : Cache) (name : String) {w : W}
    (hw : safe w) :
    (c.setDatabase name).Ensures B safe w (fun w' _ => safe w' ∧ R w w') := by
  unfold Cache.setDatabase
  cases checkIdentifier name with
  | error e => exact ensures_done.2 ⟨hw, h.refl w⟩
  | ok _ =>
      refine (h.ensures_validated c hw).bind ?_
      rintro w₁ ⟨session, c₁⟩ ⟨hsafe₁, hR₁, -⟩
      cases session with
      | error e => exact ensures_done.2 ⟨hsafe₁, hR₁⟩
      | ok session =>
          refine (h.ensures_setUp session name c₁.precision hsafe₁).bind ?_
          rintro w₂ (e | _) ⟨hsafe₂, hR₂, -⟩
          · exact ensures_done.2 ⟨hsafe₂, h.trans hR₁ hR₂⟩
          · exact ensures_done.2 ⟨hsafe₂, h.trans hR₁ hR₂⟩

/-- **A call on a session that is ready.** Either there is no session, or the call is made on one and
its failure becomes the failure of its statement. -/
theorem ensures_use (h : Steady B safe R E) {α : Type} (c : Cache) (sql : String)
    (call : Nat → Dialogue Link (Outcome α)) {w : W} {post : W → Outcome α × Cache → Prop}
    (hw : safe w)
    (hnone : ∀ w' c' e, safe w' → R w w' → E e → post w' (.error e, c'))
    (hcall : ∀ w' c' session, safe w' → R w w' → (call session).Ensures B safe w'
      (fun w'' result => post w'' (result.mapError (.statement sql), c'))) :
    (c.use sql call).Ensures B safe w post := by
  unfold Cache.use
  refine (h.ensures_validated c hw).bind ?_
  rintro w₁ ⟨session, c₁⟩ ⟨hsafe₁, hR₁, hfail⟩
  cases session with
  | error e => exact ensures_done.2 (hnone w₁ c₁ e hsafe₁ hR₁ (failsWith_error.1 hfail))
  | ok session =>
      refine (hcall w₁ c₁ session hsafe₁ hR₁).bind ?_
      rintro w₂ (e | a) hpost
      · exact ensures_done.2 hpost
      · exact ensures_done.2 hpost

end Steady

end SeriesBridge
