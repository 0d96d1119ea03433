import ServiceServer.Lib.Lines
import ServiceServer.StartMatchData

/-!
# Telling matches from their texts

The text of a match is a list of fields with a colon between any two of them, three for
the match and three for each of its players.  Nothing in it says how many players follow:
what keeps two matches apart is that no field holds a colon and that each field is
printed one-to-one.

* `fields` — the fields of a match; `serializeMatch_colon` — its text is made of them.
* `printInt_injective`, `toString_injective` — the fields that are no plain numbers.
* `serializeMatch_injective` — two matches with the same text are the same match.
-/

namespace ServiceServer

open Lib

/-! ## The fields -/

/-- The fields of a player. -/
def playerFields (p : ClientMatchInfo) : List Bytes :=
  [p.ip.toString, decimal p.port.toNat, decimal p.playerID.toNat]

/-- The fields of a match. -/
def fields (data : StartMatchData) : List Bytes :=
  decimal data.matchID.toNat :: data.type.name :: printInt data.numOfPlayers.toInt ::
    data.players.flatMap playerFields

theorem colon_eq : colon = [58] := rfl

theorem serializePlayers_colon (ps : List ClientMatchInfo) :
    ps.flatMap serializePlayer ++ colon = colon ++ unlines 58 (ps.flatMap playerFields) := by
  induction ps with
  | nil => rfl
  | cons p ps ih =>
    rw [List.flatMap_cons, List.append_assoc, ih]
    simp [serializePlayer, playerFields, colon_eq, unlines]

/-- **The text of a match is its fields**, but for the last colon. -/
theorem serializeMatch_colon (data : StartMatchData) :
    serializeMatch data ++ colon = unlines 58 (fields data) := by
  rw [serializeMatch, List.append_assoc, serializePlayers_colon]
  simp [fields, colon_eq]

/-! ## What the fields hold -/

/-- What is no digit is in no numeral. -/
theorem notMem_decimal {b : UInt8} (hb : isDigit b = false) (n : Nat) : b ∉ decimal n := by
  intro hmem
  rw [isDigit_of_mem_decimal hmem] at hb
  cases hb

theorem colon_notMem_printInt (v : Int) : 58 ∉ printInt v := by
  have hdigits := notMem_decimal (b := 58) (by decide) v.natAbs
  unfold printInt
  split_ifs
  · rw [List.mem_append, not_or]
    exact ⟨by decide, hdigits⟩
  · exact hdigits

theorem colon_notMem_name (t : MatchType) : 58 ∉ t.name := by
  cases t <;> decide

theorem colon_notMem_toString (ip : IpAddress) : 58 ∉ ip.toString := by
  have hdigits := notMem_decimal (b := 58) (by decide)
  have hdot : (58 : UInt8) ∉ ascii ['.'] := by decide
  simp only [IpAddress.toString, List.mem_append, not_or]
  exact ⟨⟨⟨⟨⟨⟨hdigits _, hdot⟩, hdigits _⟩, hdot⟩, hdigits _⟩, hdot⟩, hdigits _⟩

/-- **No field holds a colon.** -/
theorem colon_notMem_fields (data : StartMatchData) : ∀ field ∈ fields data, 58 ∉ field := by
  have hdigits := notMem_decimal (b := 58) (by decide)
  intro field hfield
  simp only [fields, List.mem_cons, List.mem_flatMap] at hfield
  rcases hfield with rfl | rfl | rfl | ⟨p, -, hfield⟩
  · exact hdigits _
  · exact colon_notMem_name _
  · exact colon_notMem_printInt _
  · simp only [playerFields, List.mem_cons, List.not_mem_nil, or_false] at hfield
    rcases hfield with rfl | rfl | rfl
    · exact colon_notMem_toString _
    · exact hdigits _
    · exact hdigits _

/-! ## Each field is printed one-to-one -/

theorem name_injective : Function.Injective MatchType.name := by
  intro t t' h
  cases t <;> cases t' <;> first | rfl | exact absurd h (by decide)

/-- A minus starts the numeral of no natural number. -/
theorem minus_append_ne_decimal (m n : Nat) : ascii ['-'] ++ decimal m ≠ decimal n := by
  intro h
  refine notMem_decimal (b := 45) (by decide) n ?_
  rw [← h]
  exact List.mem_append_left _ (by decide)

theorem printInt_injective : Function.Injective printInt := by
  intro v w h
  unfold printInt at h
  split_ifs at h with hv hw hw
  · have habs := decimal_injective (List.append_cancel_left h)
    omega
  · exact absurd h (minus_append_ne_decimal _ _)
  · exact absurd h.symm (minus_append_ne_decimal _ _)
  · have habs := decimal_injective h
    omega

theorem decimal_toNat_injective : Function.Injective fun b : UInt8 => decimal b.toNat :=
  fun _ _ h => UInt8.toNat_inj.1 (decimal_injective h)

/-- An address is four numerals, each with a dot behind it but for the last. -/
theorem toString_dot (ip : IpAddress) : ip.toString ++ ascii ['.'] = unlines 46
    ([ip.byte0, ip.byte1, ip.byte2, ip.byte3].map fun b => decimal b.toNat) := by
  have hdot : ascii ['.'] = [46] := rfl
  simp [IpAddress.toString, hdot]

theorem toString_injective : Function.Injective IpAddress.toString := by
  intro a b h
  have hnumeral : ∀ (l : List UInt8), ∀ x ∈ l.map fun b => decimal b.toNat, (46 : UInt8) ∉ x := by
    intro l x hx
    obtain ⟨c, -, rfl⟩ := List.mem_map.1 hx
    exact notMem_decimal (by decide) _
  have hlines := congrArg (· ++ ascii ['.']) h
  simp only [toString_dot] at hlines
  have hbytes := (List.map_injective_iff.2 decimal_toNat_injective)
    (eq_of_unlines_eq (hnumeral _) (hnumeral _) hlines)
  cases a
  cases b
  simpa using hbytes

theorem playerFields_injective : Function.Injective playerFields := by
  intro p q h
  simp only [playerFields, List.cons.injEq, and_true] at h
  obtain ⟨hip, hport, hid⟩ := h
  have hport' := UInt16.toNat_inj.1 (decimal_injective hport)
  have hid' := UInt32.toNat_inj.1 (decimal_injective hid)
  have hip' := toString_injective hip
  cases p
  cases q
  rw [ClientMatchInfo.mk.injEq]
  exact ⟨hip', hport', hid'⟩

/-! ## The whole text -/

/-- The fields of players are read three at a time, so they tell how many there are. -/
theorem flatMap_playerFields_injective :
    Function.Injective fun ps : List ClientMatchInfo => ps.flatMap playerFields := by
  intro ps
  induction ps with
  | nil =>
    intro qs h
    cases qs with
    | nil => rfl
    | cons q qs => cases h
  | cons p ps ih =>
    intro qs h
    cases qs with
    | nil => cases h
    | cons q qs =>
      simp only [List.flatMap_cons] at h
      obtain ⟨hfirst, hrest⟩ := List.append_inj h rfl
      rw [playerFields_injective hfirst, ih hrest]

/-- **A serialized match can be read back unambiguously**: two matches with the same text
have the same ID, type, number of players and players. -/
theorem serializeMatch_injective : Function.Injective serializeMatch := by
  intro d₁ d₂ h
  have hlines := congrArg (· ++ colon) h
  simp only [serializeMatch_colon] at hlines
  have hfields := eq_of_unlines_eq (colon_notMem_fields d₁) (colon_notMem_fields d₂) hlines
  simp only [fields, List.cons.injEq] at hfields
  obtain ⟨hid, htype, hnum, hplayers⟩ := hfields
  have hid' := UInt32.toNat_inj.1 (decimal_injective hid)
  have hnum' := Int32.toInt_inj.1 (printInt_injective hnum)
  have hplayers' := flatMap_playerFields_injective hplayers
  have htype' := name_injective htype
  cases d₁
  cases d₂
  rw [StartMatchData.mk.injEq]
  exact ⟨hid', htype', hnum', hplayers'⟩

end ServiceServer
