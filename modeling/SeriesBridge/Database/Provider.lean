import SeriesBridge.Database.Link
import SeriesBridge.Retry

/-! # Opening sessions

* **`Provider`** — where to connect, with what credentials, and how often to try.
* **`Provider.connect p session`** — open a session. A failure that may pass is tried again after a
  fixed wait, as long as attempts are left; any other failure is final. -/

namespace SeriesBridge

/-- **How sessions are opened.** -/
structure Provider where
  endpoint : Endpoint
  credentials : Credentials
  policy : RetryPolicy
  deriving DecidableEq, Repr

namespace Provider

/-- **The attempts from the one with the given number on,** with so many left after it. -/
def connectFrom (p : Provider) (session attempt : Nat) : Nat → Dialogue Link (Outcome Unit)
  | 0 => do
      match ← Link.connect session p.endpoint p.credentials with
      | .ok () => return .ok ()
      | .error e => return .error (if e.isRetryable then .connection attempt e else e)
  | left + 1 => do
      match ← Link.connect session p.endpoint p.credentials with
      | .ok () => return .ok ()
      | .error e =>
          if e.isRetryable then do
            Link.pause p.policy.wait
            connectFrom p session (attempt + 1) left
          else return .error e

/-- **Open a session.** When the last attempt fails too, the error tells how many there were. -/
def connect (p : Provider) (session : Nat) : Dialogue Link (Outcome Unit) :=
  p.connectFrom session 1 (p.policy.maxAttempts - 1)

/-! ## As it is shown -/

/-- The decimals of thousandths, with the point before them, without zeros at the end. -/
def showThousandths (n : Nat) : List Char :=
  let digits := Text.showNat (1000 + n % 1000)
  let decimals := Text.dropEndWhile (· == '0') (digits.drop 1)
  if decimals.isEmpty then [] else '.' :: decimals

/-- A time in the largest unit that it fills. -/
def showDuration (millis : Nat) : String :=
  String.ofList
    (if 1000 ≤ millis then Text.showNat (millis / 1000) ++ showThousandths millis ++ ['s']
    else if 0 < millis then Text.showNat millis ++ ['m', 's']
    else ['0', 'n', 's'])

/-- A provider as it is shown, without the password. -/
def describe (p : Provider) : String :=
  "ConnectionProvider \x7b url: " ++ String.ofList (Text.quoted p.endpoint.display.toList) ++
    ", credentials: " ++ p.credentials.describe ++ ", policy: RetryPolicy \x7b max_attempts: " ++
    toString p.policy.maxAttempts ++ ", backoff: " ++ showDuration p.policy.wait ++ " \x7d \x7d"

end Provider

end SeriesBridge
