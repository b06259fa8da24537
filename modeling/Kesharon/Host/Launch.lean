import Kesharon.Domain.Id
import Kesharon.Host.Client
import Kesharon.Protocol.TokenText

namespace Kesharon.Host

open Domain Framework Protocol

inductive EndpointError where
  | blank
  deriving DecidableEq, Repr

def EndpointError.toString : EndpointError → String
  | .blank => "local IPC endpoint must not be blank"

structure LocalEndpoint where
  value : NonBlank
  deriving DecidableEq, Repr

def LocalEndpoint.new (value : String) : Except EndpointError LocalEndpoint :=
  (nonBlank .blank value).map LocalEndpoint.mk

structure LaunchConfiguration where
  endpoint : LocalEndpoint
  launchToken : String
  deriving DecidableEq, Repr

namespace LaunchConfiguration

/-- `{byte:02x}`: the digits of a byte, with zeros up to a width of two. -/
def writeByte (byte : UInt8) : String :=
  let digits := Nat.toDigits 16 byte.toNat
  String.ofList (List.replicate (2 - digits.length) '0' ++ digits)

/-- The loop of `generate` over the bytes of a token. -/
def writeToken (token : List UInt8) : String :=
  token.foldl (fun launchToken byte => launchToken ++ writeByte byte) ""

/-- `LaunchConfiguration::generate`, with what the source of random bytes returns and the value of
the endpoint. -/
def generate (random : Except String { token : List UInt8 // token.length = 32 })
    (endpointValue : String) : Except HostError LaunchConfiguration :=
  match random with
  | .error error => .error (.random error)
  | .ok token =>
    let launchToken := writeToken token.1
    match LocalEndpoint.new endpointValue with
    | .error error => .error (.endpoint error.toString)
    | .ok endpoint => .ok ⟨endpoint,launchToken⟩

theorem utf8_writeByte (byte : UInt8) : utf8 (writeByte byte) = lowerHex byte := by
  have all : ∀ n < 256, utf8 (writeByte (UInt8.ofNat n)) = lowerHex (UInt8.ofNat n) := by
    decide +kernel
  have this := all byte.toNat byte.toNat_lt
  rwa [UInt8.ofNat_toNat] at this

theorem utf8_writeToken (token : List UInt8) : utf8 (writeToken token) = token.flatMap lowerHex := by
  have general (start : String) :
      utf8 (token.foldl (fun launchToken byte => launchToken ++ writeByte byte) start) =
        utf8 start ++ token.flatMap lowerHex := by
    induction token generalizing start with
    | nil => simp
    | cons byte token ih =>
      rw [List.foldl_cons, ih, utf8_append, utf8_writeByte, List.flatMap_cons, List.append_assoc]
  exact general ""

theorem spells_writeToken (token : List UInt8) : Spells (utf8 (writeToken token)) token := by
  have lower (digit : Nat) (small : digit < 16) :
      toAsciiLowercase (lowerDigit digit) = lowerDigit digit := by
    have all : ∀ d < 16, toAsciiLowercase (lowerDigit d) = lowerDigit d := by decide
    exact all digit small
  have bytes (byte : UInt8) : (lowerHex byte).map toAsciiLowercase = lowerHex byte := by
    have bound := byte.toNat_lt
    simp only [lowerHex, List.map_cons, List.map_nil]
    rw [lower _ (by omega), lower _ (by omega)]
  rw [spells_iff, utf8_writeToken, List.map_flatMap]
  simp only [bytes]

end LaunchConfiguration

/-- The text is 64 digits that denote the bytes of a token. -/
def Denotes (value : String) (token : LaunchToken) : Prop := Spells (utf8 value) token.bytes

/-- The digits of two texts, up to the case of the letters. -/
def SameDigits (left right : String) : Prop :=
  (utf8 left).map toAsciiLowercase = (utf8 right).map toAsciiLowercase

/-- A text is a launch token exactly when it is 64 digits; a token parsed from 64 digits matches
the spellings of these digits, and what is written of 32 bytes is read back. -/
structure ExactHex (value : String) : Prop where
  parses : ∀ token, LaunchToken.parseHex value = .ok (.ok token) ↔ Denotes value token
  compares : ∀ source token, LaunchToken.parseHex source = .ok (.ok token) →
    Denotes source token → (token.matchesHex value = .ok true ↔ SameDigits value source)
  generated : ∀ random endpointValue launch,
    LaunchConfiguration.generate (.ok random) endpointValue = .ok launch →
      LaunchToken.parseHex launch.launchToken = .ok (.ok ⟨random.1,random.2⟩)

/-- What `parse_hex` takes beyond digits is a sign in front of the second digit of a pair. -/
theorem exactHex_iff (value : String) : ExactHex value ↔ ¬ LaunchToken.Signed (utf8 value) := by
  constructor
  · rintro exact ⟨plus, bytes, size, reads⟩
    have parsed := (exact.parses ⟨bytes,size⟩).mp (LaunchToken.parseHex_eq_ok.mpr reads)
    exact parsed.no_plus plus
  · intro plain
    have language (token : LaunchToken) :
        LaunchToken.Reads (utf8 value) token.bytes ↔ Spells (utf8 value) token.bytes := by
      constructor
      · intro reads
        apply reads.spells
        intro plus
        exact plain ⟨plus, token.bytes, token.length_eq, reads⟩
      · exact .of_spells
    refine ⟨?_, ?_, ?_⟩
    · intro token
      rw [LaunchToken.parseHex_eq_ok, language]
      rfl
    · intro source token _ denotes
      rw [LaunchToken.matchesHex_eq_true, language]
      exact denotes.iff_sameCase
    · intro random endpointValue launch made
      have written : launch.launchToken = LaunchConfiguration.writeToken random.1 := by
        simp only [LaunchConfiguration.generate] at made
        split at made
        · cases made
        · obtain rfl := Except.ok.inj made
          rfl
      rw [written]
      have spells := LaunchConfiguration.spells_writeToken random.1
      exact LaunchToken.parseHex_eq_ok.mpr (.of_spells spells)

/-- `+f` is read as the byte 15. -/
theorem exactHex_not_signed :
    ¬ ExactHex "+f00000000000000000000000000000000000000000000000000000000000000" := by
  intro exact
  have parsed := (exact.parses ⟨0x0F :: List.replicate 31 0,rfl⟩).mp (by decide +kernel)
  exact absurd (by decide +kernel) parsed.no_plus

end Kesharon.Host
