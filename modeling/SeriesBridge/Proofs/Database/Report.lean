import SeriesBridge.Database.Report
import SeriesBridge.Proofs.Text.Blank

/-! # Replies of failed requests

The status of a reply says whether a request failed, whether the credentials were refused, and whether
the failure may pass. A reply may hold a report as well, with a code and a description of its own. This
file says when the outcome is the one that the status stands for.

* **`WebReply.Refuses`** — a reply that refuses the credentials.
* **`Status.MayPass`** — a status that stands for a failure that may pass.
* **`Report.Decided`** — the outcome that a status stands for.
* **`Report.decided_ofReply_iff`** — the outcome of a failed request is the one that its status stands
  for, unless the reply holds a report of success, or a report of a failure under the status for too many
  requests. -/

namespace SeriesBridge

/-! ## What a status stands for -/

/-- **A failure that may pass:** too many requests, or a fault of the server. -/
def Status.MayPass (status : Nat) : Prop := status = 429 ∨ (500 ≤ status ∧ status < 600)

/-- The statuses that refuse. -/
theorem Status.isRefusal_iff {status : Nat} :
    isRefusal status = true ↔ status = 401 ∨ status = 403 := by
  rw [isRefusal, Bool.or_eq_true, decide_eq_true_iff, decide_eq_true_iff]

/-- The statuses of faults of the server. -/
theorem Status.isServerFault_iff {status : Nat} :
    isServerFault status = true ↔ 500 ≤ status ∧ status < 600 := by
  rw [isServerFault, Bool.and_eq_true, decide_eq_true_iff, decide_eq_true_iff]

/-- The words by which a database refuses credentials. -/
def refusal : List Char := "authentication failure".toList

/-- **A reply that refuses the credentials:** by its status, or by the description in its report, in
letters of either case. -/
def WebReply.Refuses (reply : WebReply) : Prop :=
  (reply.status = 401 ∨ reply.status = 403) ∨
    ∃ r description, Report.ofText? reply.text = some r ∧ r.description = some description ∧
      refusal <:+: Text.lower description.toList

namespace Report

/-- **The outcome that a status stands for:** an error, by which the credentials were refused, or else
one that may pass if and only if the status says so. -/
def Decided (reply : WebReply) (outcome : Outcome Report) : Prop :=
  ∃ e, outcome = .error e ∧
    (reply.Refuses → ∃ text, e = .authentication text) ∧
      (¬ reply.Refuses → (e.isRetryable = true ↔ Status.MayPass reply.status))

variable {reply : WebReply} {r : Report}

/-- An error by which the credentials were refused, for a reply that refuses them. -/
theorem decided_of_refuses (h : reply.Refuses) (text : String) :
    Decided reply (.error (.authentication text)) :=
  ⟨_, rfl, fun _ => ⟨text, rfl⟩, fun hnot => absurd h hnot⟩

/-- Another error, for a reply that does not refuse the credentials. -/
theorem decided_iff_of_not_refuses (h : ¬ reply.Refuses) (e : Error) :
    Decided reply (.error e) ↔ (e.isRetryable = true ↔ Status.MayPass reply.status) := by
  constructor
  · rintro ⟨e', he, -, hpass⟩
    cases he
    exact hpass h
  · intro hpass
    exact ⟨e, rfl, fun hrefuses => absurd hrefuses h, fun _ => hpass⟩

/-- A result is no error. -/
theorem not_decided_ok (reply : WebReply) (r : Report) : ¬ Decided reply (.ok r) := by
  rintro ⟨e, he, -⟩
  cases he

/-! ## Replies without a report -/

/-- The description of a report that has one refuses the credentials by its words alone. -/
theorem refusesCredentials_getD_iff (description : Option String) :
    refusesCredentials (description.getD "unknown error") = true ↔
      ∃ words, description = some words ∧ refusal <:+: Text.lower words.toList := by
  cases description with
  | none =>
      have hunknown : refusesCredentials "unknown error" = false := by decide
      simp [hunknown]
  | some words =>
      show (Text.splitFirst refusal (Text.lower words.toList)).isSome = true ↔ _
      rw [Text.isSome_splitFirst_iff]
      constructor
      · exact fun h => ⟨words, rfl, h⟩
      · rintro ⟨words', hwords, h⟩
        cases hwords
        exact h

/-- A reply without a report refuses by its status. -/
theorem refuses_iff_of_none (h : ofText? reply.text = none) :
    reply.Refuses ↔ Status.isRefusal reply.status = true := by
  rw [WebReply.Refuses, h, Status.isRefusal_iff]
  simp

/-- A reply with a report refuses by its status or by the description. -/
theorem refuses_iff_of_some (h : ofText? reply.text = some r) : reply.Refuses ↔
    (Status.isRefusal reply.status ||
      refusesCredentials (r.description.getD "unknown error")) = true := by
  rw [WebReply.Refuses, h, Bool.or_eq_true, Status.isRefusal_iff, refusesCredentials_getD_iff]
  simp

/-- **The error of a reply without a report** is the one that the status stands for. -/
theorem decided_statusError (h : ofText? reply.text = none) (body : String) :
    Decided reply (.error (statusError reply.status body)) := by
  have hrefuses := refuses_iff_of_none h
  unfold statusError
  by_cases hrefusal : Status.isRefusal reply.status = true
  · rw [if_pos hrefusal]
    exact decided_of_refuses (hrefuses.2 hrefusal) _
  · rw [if_neg hrefusal, decided_iff_of_not_refuses (mt hrefuses.1 hrefusal)]
    have hpass : (Status.isServerFault reply.status || Status.isTooMany reply.status) = true ↔
        Status.MayPass reply.status := by
      rw [Bool.or_eq_true, Status.isServerFault_iff, Status.isTooMany, decide_eq_true_iff, or_comm]
      rfl
    rw [← hpass]
    cases Status.isServerFault reply.status || Status.isTooMany reply.status <;>
      simp [Error.isRetryable]

/-! ## Replies with a report -/

/-- **The error of a report of a failure** is the one that the status stands for, unless there were too
many requests: that such a failure may pass is not seen beside a report. -/
theorem decided_failure_iff (h : ofText? reply.text = some r) :
    Decided reply (.error (r.failure reply.status)) ↔ (reply.status = 429 → reply.Refuses) := by
  have hrefuses := refuses_iff_of_some h
  unfold failure
  by_cases hrefusal : (Status.isRefusal reply.status ||
      refusesCredentials (r.description.getD "unknown error")) = true
  · rw [if_pos hrefusal]
    have hreply := hrefuses.2 hrefusal
    exact ⟨fun _ _ => hreply, fun _ => decided_of_refuses hreply _⟩
  · have hreply := mt hrefuses.1 hrefusal
    rw [if_neg hrefusal]
    by_cases hfault : Status.isServerFault reply.status = true
    · rw [if_pos hfault, decided_iff_of_not_refuses hreply]
      -- A fault of the server may pass, and it does not come under the status for too many requests.
      have hrange := Status.isServerFault_iff.1 hfault
      refine ⟨fun _ hmany => ?_, fun _ => ⟨fun _ => .inr hrange, fun _ => rfl⟩⟩
      omega
    · -- The error will not pass, which is right for all other statuses but one.
      rw [if_neg hfault, decided_iff_of_not_refuses hreply, Status.MayPass, ← Status.isServerFault_iff]
      simp [Error.isRetryable, hfault, hreply]

/-! ## All replies -/

/-- A reply with a report comes to its result or to its failure. -/
theorem ofReply_of_some (h : ofText? reply.text = some r) : ofReply reply =
    if r.code = 0 then .ok r else .error (r.failure reply.status) := by
  rw [ofReply, h]

/-- A reply of a failed request without a report comes to the error of its status. -/
theorem ofReply_of_none (h : ofText? reply.text = none)
    (hfailed : Status.isSuccess reply.status = false) :
    ofReply reply = .error (statusError reply.status reply.text) := by
  rw [ofReply, h, hfailed]
  rfl

/-- **The status of a failed request decides its outcome** if and only if a report that the reply holds
is one of a failure, and comes under the status for too many requests only where it refuses the
credentials. Under any status a report of success is taken for the result, and a failure that is
reported under the status for too many requests is taken for one that will not pass. -/
theorem decided_ofReply_iff (hfailed : Status.isSuccess reply.status = false) :
    (Decided reply (ofReply reply) ↔
      ∀ r, ofText? reply.text = some r → r.code ≠ 0 ∧ (reply.status = 429 → reply.Refuses)) ∧
    ∀ r, ofText? reply.text = some r →
      (r.code = 0 → ofReply reply = .ok r) ∧
        (r.code ≠ 0 → reply.status = 429 → ¬ reply.Refuses →
          ofReply reply = .error (.fatal r.failureText none)) := by
  cases hreport : ofText? reply.text with
  | none =>
      rw [ofReply_of_none hreport hfailed]
      refine ⟨iff_of_true (decided_statusError hreport _) ?_, ?_⟩
      · exact fun r hr => nomatch hr
      · exact fun r hr => nomatch hr
  | some r =>
      rw [ofReply_of_some hreport]
      simp only [Option.some.injEq, forall_eq']
      by_cases hcode : r.code = 0
      · rw [if_pos hcode]
        exact ⟨iff_of_false (not_decided_ok reply r) (fun h => h.1 hcode), fun _ => rfl,
          fun hne => absurd hcode hne⟩
      · rw [if_neg hcode, decided_failure_iff hreport]
        refine ⟨(and_iff_right hcode).symm, fun h => absurd h hcode, fun _ hmany hnot => ?_⟩
        have hfault : Status.isServerFault reply.status = false := by rw [hmany]; rfl
        rw [failure, if_neg (mt (refuses_iff_of_some hreport).2 hnot), hfault]
        rfl

/-- Credentials that are refused in the description, under the status for too many requests. -/
def refusedReply : WebReply :=
  ⟨429, Text.Utf8.ofString "\x7b\"code\":855,\"desc\":\"Authentication Failure\"\x7d"⟩

/-- The outcome is the one that the status stands for. -/
theorem decided_refusedReply : Status.isSuccess refusedReply.status = false ∧
    Decided refusedReply (ofReply refusedReply) := by
  have hfailed : Status.isSuccess refusedReply.status = false := by decide
  refine ⟨hfailed, (decided_ofReply_iff hfailed).1.2 (fun r hr => ?_)⟩
  have hread : (ofText? refusedReply.text).map (fun r => (r.code, r.description)) =
      some (855, some "Authentication Failure") := by decide +kernel
  rw [hr, Option.map_some, Option.some.injEq, Prod.mk.injEq] at hread
  obtain ⟨hcode, hdescription⟩ := hread
  refine ⟨by rw [hcode]; decide, fun _ => .inr ⟨r, _, hr, hdescription, [], [], ?_⟩⟩
  decide +kernel

/-- A failure that is reported under the status for too many requests. -/
def busyReply : WebReply :=
  ⟨429, Text.Utf8.ofString "\x7b\"code\":1,\"desc\":\"busy\"\x7d"⟩

/-- A report of success under a fault of the server. -/
def brokenReply : WebReply := ⟨500, Text.Utf8.ofString "\x7b\"code\":0\x7d"⟩

/-- Neither outcome is the one that the status stands for: too many requests are taken for a failure that
will not pass, and a fault of the server for success. -/
theorem not_decided_busyReply : ¬ Decided busyReply (ofReply busyReply) ∧
    ¬ Decided brokenReply (ofReply brokenReply) := by
  constructor
  · have hread : (ofText? busyReply.text).map (fun r => (r.code, r.description)) =
        some (1, some "busy") := by decide +kernel
    obtain ⟨r, hr, hparts⟩ := Option.map_eq_some_iff.1 hread
    obtain ⟨hcode, hdescription⟩ := Prod.mk.inj hparts
    have hne : r.code ≠ 0 := by rw [hcode]; decide
    rw [ofReply_of_some hr, if_neg hne, decided_failure_iff hr, refuses_iff_of_some hr, hdescription]
    exact fun h => absurd (h rfl) (by decide +kernel)
  · have hread : (ofText? brokenReply.text).map Report.code = some 0 := by decide +kernel
    obtain ⟨r, hr, hcode⟩ := Option.map_eq_some_iff.1 hread
    rw [ofReply_of_some hr, if_pos hcode]
    exact not_decided_ok brokenReply r

end Report

end SeriesBridge
