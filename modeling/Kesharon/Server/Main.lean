import Kesharon.Host.Launch

namespace Kesharon.Server.Main

open Framework Host Ipc Protocol

/-- What `run` refuses before it binds the endpoint. -/
inductive LaunchError where
  | unknownArgument (argument : String)
  | missingEndpoint
  | endpoint (error : EndpointError)
  | stdin (error : IoError)
  | token (error : ProtocolError)
  deriving DecidableEq, Repr

def LaunchError.toString : LaunchError → String
  | .unknownArgument argument => "unknown argument: " ++ argument
  | .missingEndpoint => "missing --endpoint"
  | .endpoint error => error.toString
  | .stdin error => error.message
  | .token error => error.toString

/-- What a daemon has been launched with. -/
structure Launched where
  endpoint : LocalEndpoint
  launchToken : LaunchToken
  once : Bool
  deriving DecidableEq, Repr

/-- The loop over the arguments behind the name of the program. -/
def takeArguments (endpoint : Option String) (once : Bool) :
    List String → Except LaunchError (Option String × Bool)
  | [] => .ok (endpoint, once)
  | argument :: arguments =>
    if argument = "--endpoint" then
      match arguments with
      | [] => .ok (none, once)
      | value :: arguments => takeArguments (some value) once arguments
    else if argument = "--once" then takeArguments endpoint true arguments
    else .error (.unknownArgument argument)

/-- `read_line`: up to the end of the first line, and with it. -/
def readLine (stdin : List UInt8) : Except IoError String :=
  let line := stdin.takeWhile (· ≠ 0x0A) ++ (stdin.dropWhile (· ≠ 0x0A)).take 1
  match String.fromUTF8? line.toByteArray with
  | none => .error ⟨.other,"stream did not contain valid UTF-8"⟩
  | some text => .ok text

/-- `token.trim_end_matches(['\r', '\n'])` -/
def trimLineEnd (token : String) : String :=
  String.ofList (token.toList.reverse.dropWhile fun c => c = '\r' ∨ c = '\n').reverse

/-- `run`, up to the bind of the endpoint. -/
def run (arguments : List String) (stdin : List UInt8) :
    Except Panic (Except LaunchError Launched) :=
  match takeArguments none false arguments with
  | .error error => .ok (.error error)
  | .ok (none, _) => .ok (.error .missingEndpoint)
  | .ok (some value, once) =>
    match LocalEndpoint.new value with
    | .error error => .ok (.error (.endpoint error))
    | .ok endpoint =>
      match readLine stdin with
      | .error error => .ok (.error (.stdin error))
      | .ok token =>
        match LaunchToken.parseHex (trimLineEnd token) with
        | .error panic => .error panic
        | .ok (.error error) => .ok (.error (.token error))
        | .ok (.ok launchToken) => .ok (.ok ⟨endpoint,launchToken,once⟩)

/-- The line that a text and its end make. -/
theorem readLine_line {text : String} (single : 0x0A ∉ utf8 text) :
    readLine (utf8 (text ++ "\n")) = .ok (text ++ "\n") := by
  have front : (utf8 (text ++ "\n")).takeWhile (· ≠ 0x0A) = utf8 text := by
    rw [utf8_append, List.takeWhile_append_of_pos]
    · change utf8 text ++ [] = utf8 text
      exact List.append_nil _
    · intro b among
      refine decide_eq_true ?_
      rintro rfl
      exact single among
  have back : (utf8 (text ++ "\n")).dropWhile (· ≠ 0x0A) = [0x0A] := by
    rw [utf8_append, List.dropWhile_append_of_pos]
    · rfl
    · intro b among
      refine decide_eq_true ?_
      rintro rfl
      exact single among
  have whole : utf8 text ++ [0x0A] = utf8 (text ++ "\n") := by
    rw [utf8_append]
    rfl
  unfold readLine
  rw [front, back]
  dsimp only [List.take]
  rw [whole, fromUTF8?_utf8]

/-- A text that is not blank at its end loses nothing but the end of its line. -/
theorem trimLineEnd_line {text : String} (solid : ∀ c ∈ text.toList, c ≠ '\r' ∧ c ≠ '\n') :
    trimLineEnd (text ++ "\n") = text := by
  have chars : (text ++ "\n").toList.reverse = '\n' :: text.toList.reverse := by simp
  have stays : text.toList.reverse.dropWhile (fun c => decide (c = '\r' ∨ c = '\n')) =
      text.toList.reverse := by
    cases reversed : text.toList.reverse with
    | nil => rfl
    | cons c cs =>
      have among : c ∈ text.toList := by
        rw [← List.mem_reverse, reversed]
        exact List.mem_cons_self ..
      obtain ⟨noReturn, noFeed⟩ := solid c among
      rw [List.dropWhile_cons_of_neg]
      simp [noReturn, noFeed]
  unfold trimLineEnd
  rw [chars, List.dropWhile_cons_of_pos (by decide), stays, List.reverse_reverse,
    String.ofList_toList]

/-- A byte in digits. -/
theorem writeByte_solid (byte : UInt8) :
    ∀ c ∈ (LaunchConfiguration.writeByte byte).toList, c ≠ '\r' ∧ c ≠ '\n' := by
  have all : ∀ n < 256, ((LaunchConfiguration.writeByte (UInt8.ofNat n)).toList.all
      fun c => decide (c ≠ '\r' ∧ c ≠ '\n')) = true := by decide +kernel
  have this := all byte.toNat byte.toNat_lt
  rw [UInt8.ofNat_toNat] at this
  intro c among
  exact of_decide_eq_true (List.all_eq_true.mp this c among)

theorem writeToken_solid (token : List UInt8) :
    ∀ c ∈ (LaunchConfiguration.writeToken token).toList, c ≠ '\r' ∧ c ≠ '\n' := by
  have general (start : String) (solid : ∀ c ∈ start.toList, c ≠ '\r' ∧ c ≠ '\n') :
      ∀ c ∈ (token.foldl (fun launchToken byte =>
        launchToken ++ LaunchConfiguration.writeByte byte) start).toList, c ≠ '\r' ∧ c ≠ '\n' := by
    induction token generalizing start with
    | nil => exact solid
    | cons byte token ih =>
      apply ih
      intro c among
      rw [String.toList_append, List.mem_append] at among
      rcases among with old | new
      · exact solid c old
      · exact writeByte_solid byte c new
  exact general "" (by simp)

theorem writeToken_single (token : List UInt8) :
    0x0A ∉ utf8 (LaunchConfiguration.writeToken token) := by
  have digit : ∀ d < 16, lowerDigit d ≠ 0x0A := by decide
  rw [LaunchConfiguration.utf8_writeToken, List.mem_flatMap]
  rintro ⟨byte, _, among⟩
  have bound := byte.toNat_lt
  simp only [lowerHex, List.mem_cons, List.not_mem_nil, or_false] at among
  rcases among with high | low
  · exact digit _ (by omega) high.symm
  · exact digit _ (by omega) low.symm

theorem launchToken_generated
    {random : { token : List UInt8 // token.length = 32 }} {endpointValue : String}
    {launch : LaunchConfiguration}
    (generated : LaunchConfiguration.generate (.ok random) endpointValue = .ok launch) :
    launch.launchToken = LaunchConfiguration.writeToken random.1 := by
  simp only [LaunchConfiguration.generate] at generated
  split at generated
  · cases generated
  · obtain rfl := Except.ok.inj generated
    rfl

/-- A daemon takes what `start_daemon` launches it with: the endpoint, and the random token. -/
theorem run_launched {random : { token : List UInt8 // token.length = 32 }} {endpointValue : String}
    {launch : LaunchConfiguration}
    (generated : LaunchConfiguration.generate (.ok random) endpointValue = .ok launch) :
    run ["--endpoint",launch.endpoint.value.text] (utf8 (launch.launchToken ++ "\n")) =
      .ok (.ok ⟨launch.endpoint,⟨random.1,random.2⟩,false⟩) := by
  have written := launchToken_generated generated
  have arguments : takeArguments none false ["--endpoint",launch.endpoint.value.text] =
      .ok (some launch.endpoint.value.text, false) := by
    simp [takeArguments]
  have endpoint : LocalEndpoint.new launch.endpoint.value.text = .ok launch.endpoint := by
    unfold LocalEndpoint.new
    rw [Domain.nonBlank_text]
    rfl
  have parsed : LaunchToken.parseHex launch.launchToken = .ok (.ok ⟨random.1,random.2⟩) := by
    rw [written]
    have spells := LaunchConfiguration.spells_writeToken random.1
    exact LaunchToken.parseHex_eq_ok.mpr (.of_spells spells)
  have line : readLine (utf8 (launch.launchToken ++ "\n")) = .ok (launch.launchToken ++ "\n") := by
    rw [written]
    exact readLine_line (writeToken_single random.1)
  have trimmed : trimLineEnd (launch.launchToken ++ "\n") = launch.launchToken := by
    rw [written]
    exact trimLineEnd_line (writeToken_solid random.1)
  unfold run
  simp only [arguments, endpoint, line, trimmed, parsed]

end Kesharon.Server.Main
