import ServiceServer.Lib.Decimal
import Mathlib.Tactic.NormNum

/-!
# What the sources take from the C++ library and from SFML

Strings are byte strings, `std::to_string` prints plain decimal and `std::stoi`
reads it back with the failures the library documents.  `sf::IpAddress` is four
bytes, `sf::Clock` the reading at which it was last restarted, `sf::Time` a
number of microseconds.  A `getElapsedTime` is given the reading it takes: two
calls need not see the same one.
-/

namespace ServiceServer

open Lib

/-! ## Strings -/

/-- A `std::string`, or the contents of a `char` buffer. -/
abbrev Bytes := List UInt8

/-- The bytes of a literal. -/
def ascii (cs : List Char) : Bytes := cs.map Char.toUInt8

/-- The separator of all the textual formats. -/
def colon : Bytes := ascii [':']

/-- A signed number in decimal, as `std::ostream` prints an `int`. -/
def printInt (v : Int) : Bytes :=
  if v < 0 then ascii ['-'] ++ decimal v.natAbs else decimal v.natAbs

/-- The exceptions the modelled code can let escape. -/
inductive Exception where
  /-- `std::bad_optional_access`: `value()` of an empty `std::optional`. -/
  | badOptionalAccess
  /-- `std::invalid_argument`: `std::stoi` found no number. -/
  | invalidArgument
  /-- `std::out_of_range`: `std::stoi` read a number that fits no `int`. -/
  | outOfRange
  deriving DecidableEq, Repr

/-- `std::optional<T>::value()`. -/
def value {α : Type} : Option α → Except Exception α
  | none => .error .badOptionalAccess
  | some a => .ok a

/-- `std::isspace` in the "C" locale. -/
def isSpace (b : UInt8) : Bool := b = 32 || (9 ≤ b && b ≤ 13)

/-- The sign `std::stoi` accepts before the digits: is it a minus, and what
follows it. -/
def readSign : Bytes → Bool × Bytes
  | 45 :: s => (true, s)
  | 43 :: s => (false, s)
  | s => (false, s)

/-- `std::stoi`: blanks are skipped, then an optional sign and the longest run
of digits are read; what follows is ignored.  An `int` has 32 bits. -/
def stoi (s : Bytes) : Except Exception Int :=
  let (negative, t) := readSign (s.dropWhile isSpace)
  let digits := t.takeWhile isDigit
  if digits = [] then .error .invalidArgument
  else
    let v : Int := if negative then -(ofDecimal digits : Int) else ofDecimal digits
    if v < -2147483648 ∨ 2147483647 < v then .error .outOfRange else .ok v

theorem isSpace_of_isDigit {b : UInt8} (h : isDigit b = true) : isSpace b = false := by
  rw [isDigit_iff] at h
  simp only [isSpace, Bool.or_eq_false_iff, decide_eq_false_iff_not, Bool.and_eq_false_iff,
    UInt8.le_iff_toNat_le, ← UInt8.toNat_inj]
  have h32 : (32 : UInt8).toNat = 32 := rfl
  have h13 : (13 : UInt8).toNat = 13 := rfl
  omega

theorem readSign_of_isDigit {b : UInt8} (h : isDigit b = true) (t : Bytes) :
    readSign (b :: t) = (false, b :: t) := by
  rw [isDigit_iff] at h
  unfold readSign
  split
  · rename_i he
    obtain ⟨rfl, -⟩ := List.cons.inj he
    exact absurd h.1 (by decide)
  · rename_i he
    obtain ⟨rfl, -⟩ := List.cons.inj he
    exact absurd h.1 (by decide)
  · rfl

/-- **`std::stoi` reads back what `std::to_string` printed**, when the number
fits an `int`, and throws `std::out_of_range` when it does not. -/
theorem stoi_decimal (n : Nat) :
    stoi (decimal n) = if 2147483647 < n then .error .outOfRange else .ok (n : Int) := by
  obtain ⟨b, t, hbt⟩ := List.exists_cons_of_ne_nil (decimal_ne_nil n)
  have hb : isDigit b = true := isDigit_of_mem_decimal (n := n) (by simp [hbt])
  have hdrop : (decimal n).dropWhile isSpace = decimal n := by
    rw [hbt, List.dropWhile_cons_of_neg (by simp [isSpace_of_isDigit hb])]
  have hsign : readSign (decimal n) = (false, decimal n) := by
    rw [hbt, readSign_of_isDigit hb]
  simp only [stoi, hdrop, hsign, takeWhile_decimal, decimal_ne_nil, if_false, ofDecimal_decimal,
    Bool.false_eq_true]
  split <;> split <;> first | rfl | omega

/-! ## Addresses -/

/-- `sf::IpAddress`: an IPv4 address. -/
structure IpAddress where
  byte0 : UInt8
  byte1 : UInt8
  byte2 : UInt8
  byte3 : UInt8
  deriving DecidableEq, Repr

/-- `sf::IpAddress::toString`: dotted decimal. -/
def IpAddress.toString (ip : IpAddress) : Bytes :=
  decimal ip.byte0.toNat ++ ascii ['.'] ++ decimal ip.byte1.toNat ++ ascii ['.'] ++
    decimal ip.byte2.toNat ++ ascii ['.'] ++ decimal ip.byte3.toNat

/-! ## Time -/

/-- `sf::Time`, in microseconds. -/
abbrev Micros := Int

/-- `sf::Clock`: the reading of the system clock when it was last restarted. -/
structure Clock where
  startedAt : Micros
  deriving DecidableEq, Repr

/-- `sf::Clock::getElapsedTime`, at a reading of the system clock. -/
def Clock.getElapsedTime (c : Clock) (now : Micros) : Micros := now - c.startedAt

/-- `sf::Time::asMilliseconds`: a 32-bit count of whole milliseconds. -/
def asMilliseconds (t : Micros) : Int := (t.tdiv 1000).bmod 4294967296

end ServiceServer
