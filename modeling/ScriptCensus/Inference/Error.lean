import ScriptCensus.Programs.Basic
import ScriptCensus.Url.Basic

/-!
# Why handing on a report fails

An `InferenceError` is a cause; `InferenceError.message` words it. `requestError` tells why a request
gets no answer.
-/

namespace ScriptCensus

/-- Why a request gets no answer. -/
inductive RequestError where
  /-- The endpoint is no URL. -/
  | invalidUrl (cause : Url.ParseError)
  /-- The endpoint is a URL that cannot be asked. -/
  | schemeNotAllowed (url : Url)
  /-- There is no way to the endpoint. -/
  | unreachable (url : Url)
deriving Inhabited

/-- The wording of an error. User name and password are left out. -/
def RequestError.message : RequestError → String
  | invalidUrl cause => "builder error: " ++ cause.message
  | schemeNotAllowed url =>
    "builder error for url (" ++ url.withoutUser.text ++ "): URL scheme is not allowed"
  | unreachable url => "error sending request for url (" ++ url.withoutUser.text ++ ")"

/-- Whether a scheme is one of the two that services are asked by. -/
def Url.isWeb (u : Url) : Bool :=
  u.scheme == "http".toList || u.scheme == "https".toList

/-- Why a request to an endpoint gets no answer where there is no network. -/
def requestError (endpoint : String) : RequestError :=
  match Url.parse endpoint with
  | .error cause => .invalidUrl cause
  | .ok url => if url.isWeb then .unreachable url else .schemeNotAllowed url

/-- Why handing on a report fails. -/
inductive InferenceError where
  | network (cause : RequestError)
  | timedOut (milliseconds : Nat)
  /-- The inference side answered that it failed. -/
  | rejected (failure : String)
  | notLaunched (program : String) (cause : LaunchError)
  | commandFailed (program : String) (status : ExitStatus) (complaint : String)
deriving Inhabited

/-- Milliseconds in seconds, with as few decimals as there are. -/
def secondsText (milliseconds : Nat) : String :=
  let digits := Nat.toDigits 10 (1000 + milliseconds % 1000)
  let decimals := (digits.drop 1).reverse.dropWhile (· == '0')
  toString (milliseconds / 1000) ++
    (if decimals.isEmpty then "" else "." ++ String.ofList decimals.reverse)

/-- The wording of an error. -/
def InferenceError.message : InferenceError → String
  | network cause => "network error: " ++ cause.message
  | timedOut milliseconds => "timed out after " ++ secondsText milliseconds ++ "s"
  | rejected failure => "inference reported failure: " ++ failure
  | notLaunched program cause => "could not run " ++ program ++ ": " ++ cause.message
  | commandFailed program status complaint =>
    program ++ " exited with " ++ status.message ++ ": " ++ complaint

/-- The wording of an error, followed by that of its cause if it has one. -/
def InferenceError.chain (e : InferenceError) : List String :=
  match e with
  | network cause => [e.message, cause.message]
  | notLaunched _ cause => [e.message, cause.message]
  | _ => [e.message]

end ScriptCensus
