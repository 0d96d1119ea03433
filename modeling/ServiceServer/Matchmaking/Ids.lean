import ServiceServer.Matchmaking.Retransmission

/-!
# Match IDs

Every match the service forms is given an ID, and a new one whenever the game
server says the ID is used.  Here the books are kept of a whole run: which IDs
were issued, for which match, and which matches were confirmed or asked for.

* `Book` and `book_of_run` — the `i`-th ID issued is `i` modulo `2 ^ 32`; what is
  pending or confirmed was issued, and no issue counts twice; what is asked of
  the game server is the text of a match that was issued.
* `Book.ids_nodup` — fewer than `2 ^ 32` IDs are all different.
-/

namespace ServiceServer

open Lib

/-- The players of a match count up from `0`, and are as many as it announces. -/
def StartMatchData.Numbered (data : StartMatchData) : Prop :=
  data.players.map ClientMatchInfo.playerID
      = (List.range data.players.length).map UInt32.ofNat ∧
    (data.players.length : Int) = data.numOfPlayers.toInt

/-- The datagram that asks the game server for a match with this data. -/
def StartMatchData.request (data : StartMatchData) : Datagram :=
  sendDatagram .urgent .createMatch (serializeMatch data) gameServerIP gameServerPort

/-- The match ID a serialized match starts with. -/
def serializedID (content : Bytes) : Nat := ofDecimal (content.takeWhile isDigit)

/-- The ID of the match a datagram asks the game server for. -/
def requestedID (d : Datagram) : Option Nat :=
  if d.ip = gameServerIP ∧ d.port = gameServerPort then
    match parseRawDatagram d.data d.ip d.port with
    | none => none
    | some job => if job.type = .createMatch then some (serializedID job.content) else none
  else none

theorem serializedID_serializeMatch (data : StartMatchData) :
    serializedID (serializeMatch data) = data.matchID.toNat := by
  have htake : (serializeMatch data).takeWhile isDigit = decimal data.matchID.toNat := by
    simp only [serializeMatch, List.append_assoc]
    exact takeWhile_decimal_append _ fun b hb => by
      obtain rfl : b = 58 := Option.some.inj hb.symm
      rfl
  rw [serializedID, htake, ofDecimal_decimal]

/-- **A request names the ID of its match.** -/
@[simp] theorem requestedID_request (data : StartMatchData) :
    requestedID data.request = some data.matchID.toNat := by
  have hp : ∀ ip port, parseRawDatagram data.request.data ip port
      = some ⟨PacketHeader.urgent.mask, .createMatch, serializeMatch data, some ip, port⟩ :=
    fun ip port => parseRawDatagram_create (by decide) _ ip port
  have hip : data.request.ip = gameServerIP ∧ data.request.port = gameServerPort := ⟨rfl, rfl⟩
  simp [requestedID, hp, hip, serializedID_serializeMatch]

/-- What is sent with another type asks for nothing. -/
theorem requestedID_sendDatagram {header : PacketHeader} {type : PacketType} {content : Bytes}
    {ip : IpAddress} {port : UInt16} (hinvalid : type ≠ .invalid) (htype : type ≠ .createMatch) :
    requestedID (sendDatagram header type content ip port) = none := by
  have hp : parseRawDatagram (createRawDatagram header.mask type content) ip port
      = some ⟨header.mask, type, content, some ip, port⟩ :=
    parseRawDatagram_create hinvalid content ip port
  unfold requestedID
  split_ifs
  · show (match parseRawDatagram (createRawDatagram header.mask type content) ip port with
      | none => none
      | some job => _) = none
    rw [hp]
    simp [htype]
  · rfl

namespace MatchmakingServer

/-- A resend asks for nothing: its second byte is a digit of an address. -/
theorem requestedID_matchFoundMessage (matchID playerID : UInt32) (ip : IpAddress)
    (port : UInt16) : requestedID ⟨matchFoundMessage matchID playerID, ip, port⟩ = none := by
  obtain ⟨rest, hrest⟩ : ∃ rest, matchFoundMessage matchID playerID = 49 :: 57 :: rest := ⟨_, rfl⟩
  have htype : PacketType.ofByte 57 = .unlisted 57 (by decide) := rfl
  simp [requestedID, hrest, parseRawDatagram, htype]

/-! ## What a step issues and confirms -/

/-- The creation a reply with this content names. -/
def namedCreation (s : MatchmakingServer) (content : Bytes) : Option PendingMatchCreation :=
  s.pendingMatchCreations.find? (named content)

theorem namedCreation_eq {s : MatchmakingServer} {content : Bytes}
    {before after : List PendingMatchCreation} {c : PendingMatchCreation}
    (hcs : s.pendingMatchCreations = before ++ c :: after) (hnamed : named content c = true)
    (hbefore : ∀ b ∈ before, named content b = false) : s.namedCreation content = some c := by
  have hnone : before.find? (named content) = none := by
    rw [List.find?_eq_none]
    intro b hb
    simp [hbefore b hb]
  rw [namedCreation, hcs, List.find?_append, hnone, Option.none_or, List.find?_cons_of_pos hnamed]

theorem namedCreation_eq_none {s : MatchmakingServer} {content : Bytes}
    (h : ∀ c ∈ s.pendingMatchCreations, named content c = false) :
    s.namedCreation content = none := by
  rw [namedCreation, List.find?_eq_none]
  intro c hc
  simp [h c hc]

/-- The matches a step gives an ID: those it forms, or the one it re-keys. -/
def issuedBy (s : MatchmakingServer) : Step → List StartMatchData
  | .handle _ job =>
    if job.type = .matchUsed then
      (s.namedCreation job.content).toList.map fun c =>
        { c.matchData with matchID := s.lastMatchID + 1 }
    else []
  | .processMatchmaking t now =>
    ((s.processMatchmaking t now).pendingMatchCreations.drop s.pendingMatchCreations.length).map
      (·.matchData)
  | _ => []

/-- The matches a step creates a session for. -/
def confirmedBy (s : MatchmakingServer) : Step → List StartMatchData
  | .handle _ job =>
    if job.type = .matchUnique then (s.namedCreation job.content).toList.map (·.matchData) else []
  | _ => []

/-- All matches that were given an ID in a run, in order. -/
def issued (h : List (Transition MatchmakingServer Step (List Datagram))) : List StartMatchData :=
  h.flatMap fun t => issuedBy t.pre t.label

/-- All matches a session was created for in a run, in order. -/
def confirmed (h : List (Transition MatchmakingServer Step (List Datagram))) :
    List StartMatchData :=
  h.flatMap fun t => confirmedBy t.pre t.label

/-- A run gives out no fewer IDs than its beginning. -/
theorem length_issued_le (h h' : List (Transition MatchmakingServer Step (List Datagram))) :
    (issued h).length ≤ (issued (h ++ h')).length := by
  rw [issued, issued, List.flatMap_append, List.length_append]
  exact Nat.le_add_right _ _

theorem toInt_toInt32 {n : UInt32} (h : n.toNat < 2147483648) : n.toInt32.toInt = n.toNat := by
  rw [← UInt32.toNat_toBitVec, ← BitVec.toInt_eq_toNat_of_lt (by simpa using by omega)]
  rfl

/-- The IDs after `last`, in the order the counter issues them. -/
def idsAfter (last : UInt32) (n : Nat) : List UInt32 :=
  (List.range' 1 n).map fun i => last + UInt32.ofNat i

theorem idsAfter_add (last : UInt32) (m n : Nat) :
    idsAfter last (m + n) = idsAfter last m ++ idsAfter (last + UInt32.ofNat m) n := by
  have hshift : List.range' (1 + m) n = (List.range' 1 n).map (m + ·) := by
    rw [List.map_add_range', Nat.add_comm]
  rw [idsAfter, ← List.range'_append_1, List.map_append, hshift, List.map_map]
  simp only [idsAfter, Function.comp_def, UInt32.ofNat_add, UInt32.add_assoc]

/-- **What the pairing pass forms**: matches with the next IDs, numbered, and
with the text of their data. -/
theorem exists_formed (s : MatchmakingServer) (t : MatchType) (now : Nat → Micros) :
    ∃ new, (s.processMatchmaking t now).pendingMatchCreations = s.pendingMatchCreations ++ new ∧
      (s.processMatchmaking t now).lastMatchID = s.lastMatchID + UInt32.ofNat new.length ∧
      (s.processMatchmaking t now).pendingSessions = s.pendingSessions ∧
      (s.processMatchmaking t now).playersPerMatch = s.playersPerMatch ∧
      new.map (·.matchData.matchID) = idsAfter s.lastMatchID new.length ∧
      ∀ c ∈ new, c.serialized = serializeMatch c.matchData ∧
        (s.playersPerMatch.val.toNat < 2147483648 → c.matchData.Numbered) := by
  refine processMatchmaking_induction (t := t) (P := fun r => ∃ new,
    r.pendingMatchCreations = s.pendingMatchCreations ++ new ∧
      r.lastMatchID = s.lastMatchID + UInt32.ofNat new.length ∧
      r.pendingSessions = s.pendingSessions ∧ r.playersPerMatch = s.playersPerMatch ∧
      new.map (·.matchData.matchID) = idsAfter s.lastMatchID new.length ∧
      ∀ c ∈ new, c.serialized = serializeMatch c.matchData ∧
        (s.playersPerMatch.val.toNat < 2147483648 → c.matchData.Numbered))
    ?_ ⟨[], by simp, by simp, rfl, rfl, rfl, by simp⟩ now
  rintro r now ⟨new, hcs, hlast, hss, hper, hids, hnew⟩ hlen
  have htaken := takePlayers_eq hlen 0
  have hsucc : r.lastMatchID + 1 = s.lastMatchID + UInt32.ofNat (new.length + 1) := by
    rw [hlast, UInt32.ofNat_add, ← UInt32.add_assoc]; rfl
  refine ⟨new ++ [r.formCreation t now (takePlayers r.playersPerMatch.val.toNat 0
    (r.queueOf t)).1], by simp [pairOnce, hcs], by simpa [pairOnce] using hsucc,
    by simpa [pairOnce] using hss, by simpa [pairOnce] using hper, ?_, ?_⟩
  · rw [List.length_append, List.length_singleton, idsAfter_add, List.map_append, hids]
    simp [formCreation, hlast, idsAfter]
  · rw [List.forall_mem_append, List.forall_mem_singleton]
    refine ⟨hnew, rfl, ?_⟩
    intro hsmall
    have hcount : (numbered 0 ((r.queueOf t).take r.playersPerMatch.val.toNat)).length
        = r.playersPerMatch.val.toNat := by
      rw [length_numbered, List.length_take, Nat.min_eq_left hlen]
    rw [htaken]
    refine ⟨?_, ?_⟩
    · have hnum := map_playerID_numbered 0 ((r.queueOf t).take r.playersPerMatch.val.toNat)
      rw [← List.range_eq_range', ← length_numbered 0] at hnum
      exact hnum
    · show ((numbered 0 _).length : Int) = r.playersPerMatch.val.toInt32.toInt
      rw [hcount, toInt_toInt32 (hper ▸ hsmall)]

/-- **The IDs a step issues are the next ones.** -/
theorem issuedBy_step {s s' : MatchmakingServer} {l : Step} {out : List Datagram}
    (h : s.step l = .ok (s', out)) :
    s'.lastMatchID = s.lastMatchID + UInt32.ofNat (issuedBy s l).length ∧
      (issuedBy s l).map (·.matchID) = idsAfter s.lastMatchID (issuedBy s l).length := by
  have hnone : ∀ {last : UInt32}, last = s.lastMatchID → issuedBy s l = [] →
      last = s.lastMatchID + UInt32.ofNat (issuedBy s l).length ∧
        (issuedBy s l).map (·.matchID) = idsAfter s.lastMatchID (issuedBy s l).length := by
    rintro _ rfl he
    simp [he, idsAfter]
  cases effect_of_step h with
  | @ignored _ job _ _ _ hreply =>
    refine hnone rfl ?_
    simp only [issuedBy]
    split
    · rw [namedCreation_eq_none (hreply (.inr ‹_›))]; rfl
    · rfl
  | rekeyed before c after htype hcs hnamed hbefore =>
    simp [issuedBy, htype, namedCreation_eq hcs hnamed hbefore, idsAfter]
  | paired t now =>
    obtain ⟨new, hcs, hlast, -, -, hids, -⟩ := exists_formed s t now
    have hissued : issuedBy s (.processMatchmaking t now) = new.map (·.matchData) := by
      rw [issuedBy, hcs, List.drop_left]
    rw [hissued, List.length_map, hlast, List.map_map]
    exact ⟨rfl, hids⟩
  | searched t htype => exact hnone (by simp) (by simp [issuedBy, htype])
  | cancelled htype => exact hnone rfl (by simp [issuedBy, htype])
  | acked htype => exact hnone rfl (by simp [issuedBy, htype])
  | confirmed before c after htype => exact hnone rfl (by simp [issuedBy, htype])
  | retried now => exact hnone (by simp [processMatchCreations_eq]) rfl
  | resent now => exact hnone (by simp [processMatchSessionsACKS_eq]) rfl

/-- The matches that wait for a confirmation. -/
def pendingData (s : MatchmakingServer) : Multiset StartMatchData :=
  (s.pendingMatchCreations.map (·.matchData) : List StartMatchData)

/-- What a pass keeps of a creation is its match. -/
theorem matchData_keptCreation {c c' : PendingMatchCreation} {r : ClockReading}
    (h : keptCreation c r = some c') : c'.matchData = c.matchData ∧ c'.serialized = c.serialized := by
  unfold keptCreation at h
  split at h
  · cases h; exact ⟨rfl, rfl⟩
  · cases h
  · cases h; exact ⟨rfl, rfl⟩

/-- **No step makes a match of nothing**: what is pending after it and what it
confirmed was pending before, or it issued it. -/
theorem pendingData_step {s s' : MatchmakingServer} {l : Step} {out : List Datagram}
    (h : s.step l = .ok (s', out)) :
    s'.pendingData + (confirmedBy s l : Multiset StartMatchData)
      ≤ s.pendingData + (issuedBy s l : Multiset StartMatchData) := by
  cases effect_of_step h with
  | @ignored _ job _ _ _ hreply =>
    have hconf : confirmedBy s (.handle ‹_› job) = [] := by
      simp only [confirmedBy]
      split
      · rw [namedCreation_eq_none (hreply (.inl ‹_›))]; rfl
      · rfl
    rw [hconf]
    exact add_le_add_right (Multiset.zero_le _) _
  | confirmed before c after htype hcs hnamed hbefore =>
    have hconf : ∀ now, confirmedBy s (.handle now ‹_›) = [c.matchData] := by
      intro now
      simp [confirmedBy, htype, namedCreation_eq hcs hnamed hbefore]
    rw [hconf]
    simp only [pendingData, hcs, List.map_append, List.map_cons, Multiset.coe_add]
    have hperm := (List.perm_append_singleton c.matchData
      (before.map (·.matchData) ++ after.map (·.matchData))).trans List.perm_middle.symm
    exact (Multiset.coe_eq_coe.2 hperm).le.trans
      (Multiset.coe_le.2 (List.sublist_append_left _ _).subperm)
  | rekeyed before c after htype hcs hnamed hbefore =>
    have hissued : ∀ now, issuedBy s (.handle now ‹_›)
        = [{ c.matchData with matchID := s.lastMatchID + 1 }] := by
      intro now
      simp [issuedBy, htype, namedCreation_eq hcs hnamed hbefore]
    rw [hissued]
    simp only [confirmedBy, htype, reduceCtorEq, if_false, pendingData, hcs, rekey,
      List.map_append, List.map_cons, Multiset.coe_add, List.append_nil]
    -- the creation is taken out of its place and put back with its new match
    have hperm := List.perm_middle.trans (List.perm_append_singleton
      { c.matchData with matchID := s.lastMatchID + 1 }
      (before.map (·.matchData) ++ after.map (·.matchData))).symm
    have hsub := (List.sublist_cons_self c.matchData (after.map (·.matchData))).append_left
      (before.map (·.matchData))
    exact (Multiset.coe_eq_coe.2 hperm).le.trans
      (Multiset.coe_le.2 (hsub.append_right _).subperm)
  | paired t now =>
    obtain ⟨new, hcs, -⟩ := exists_formed s t now
    simp [confirmedBy, issuedBy, pendingData, hcs]
  | searched t htype => simp [confirmedBy, issuedBy, pendingData, htype]
  | cancelled htype => simp [confirmedBy, issuedBy, pendingData, htype]
  | acked htype => simp [confirmedBy, issuedBy, pendingData, htype]
  | retried now =>
    have hsub := map_filterMap_sublist (f := fun x => keptCreation x.1 x.2)
      (g := (·.matchData)) (k := fun x => x.1.matchData)
      (fun x c' hc' => (matchData_keptCreation hc').1) (withReadings now s.pendingMatchCreations)
    have hall : (withReadings now s.pendingMatchCreations).map (fun x => x.1.matchData)
        = s.pendingMatchCreations.map (·.matchData) := by
      conv_rhs => rw [← map_fst_withReadings now s.pendingMatchCreations, List.map_map]
      rfl
    simpa [confirmedBy, issuedBy, pendingData, processMatchCreations_eq, ← hall] using hsub.subperm
  | resent now => simp [confirmedBy, issuedBy, pendingData, processMatchSessionsACKS_eq]

/-! ## What is sent -/

/-- What the service keeps of every creation and every session: the text of a
creation is that of its match, the match is numbered, and a session holds
match-found messages. -/
structure Tidy (s : MatchmakingServer) : Prop where
  playersPerMatch : s.playersPerMatch.val.toNat < 2147483648
  creations : ∀ c ∈ s.pendingMatchCreations,
    c.serialized = serializeMatch c.matchData ∧ c.matchData.Numbered
  sessions : ∀ session ∈ s.pendingSessions, ∀ x ∈ session.identity,
    ∃ matchID playerID, x.2.1 = matchFoundMessage matchID playerID

theorem tidy_initial : Tidy initial := ⟨by decide, by simp [initial], by simp [initial]⟩

theorem tidy_step {s s' : MatchmakingServer} {l : Step} {out : List Datagram} (hs : s.Tidy)
    (h : s.step l = .ok (s', out)) : s'.Tidy := by
  obtain ⟨hper, hcs, hss⟩ := hs
  cases effect_of_step h with
  | ignored => exact ⟨hper, hcs, hss⟩
  | searched t => exact ⟨by simpa using hper, by simpa using hcs, by simpa using hss⟩
  | cancelled => exact ⟨hper, hcs, hss⟩
  | @acked _ job =>
    refine ⟨hper, hcs, ?_⟩
    intro session hsession
    obtain ⟨session, hmem, rfl⟩ := List.mem_map.1 hsession
    rw [identity_ackSession]
    exact hss session hmem
  | @confirmed now _ before c after _ heq =>
    refine ⟨hper, fun b hb => hcs b ?_, fun session hsession => ?_⟩
    · rw [heq]
      rcases List.mem_append.1 hb with hb | hb
      · exact List.mem_append_left _ hb
      · exact List.mem_append_right _ (List.mem_cons_of_mem _ hb)
    · rcases List.mem_append.1 hsession with hsession | hsession
      · exact hss session hsession
      · rw [List.mem_singleton.1 hsession, identity_sessionPlayers]
        intro x hx
        obtain ⟨p, -, rfl⟩ := List.mem_map.1 hx
        exact ⟨_, _, rfl⟩
  | rekeyed before c after _ heq =>
    refine ⟨hper, ?_, hss⟩
    intro b hb
    have hold : ∀ b ∈ before ++ c :: after, _ := heq ▸ hcs
    simp only [List.mem_append, List.mem_cons] at hb hold
    rcases hb with hb | rfl | hb
    · exact hold b (.inl hb)
    · exact ⟨rfl, (hold c (.inr (.inl rfl))).2⟩
    · exact hold b (.inr (.inr hb))
  | paired t now =>
    obtain ⟨new, hnew, -, hsame, hper', -, hformed⟩ := exists_formed s t now
    refine ⟨by rw [hper']; exact hper, ?_, by rw [hsame]; exact hss⟩
    intro b hb
    rw [hnew] at hb
    rcases List.mem_append.1 hb with hb | hb
    · exact hcs b hb
    · exact ⟨(hformed b hb).1, (hformed b hb).2 hper⟩
  | retried now =>
    rw [processMatchCreations_eq]
    refine ⟨by simpa using hper, ?_, by simpa using hss⟩
    intro b hb
    obtain ⟨x, hx, hkept⟩ := List.mem_filterMap.1 hb
    obtain ⟨hdata, hser⟩ := matchData_keptCreation hkept
    rw [hdata, hser]
    exact hcs x.1 (mem_of_mem_withReadings hx)
  | resent now =>
    rw [processMatchSessionsACKS_eq]
    refine ⟨by simpa using hper, by simpa using hcs, ?_⟩
    intro session hsession
    obtain ⟨x, hx, hkept⟩ := List.mem_filterMap.1 hsession
    rw [identity_keptSession hkept]
    exact hss x.1 (mem_of_mem_withReadings hx)

/-- **What asks for a match is the request of a pending creation**; nothing else
the service sends reads as one. -/
theorem request_of_step {s s' : MatchmakingServer} {l : Step} {out : List Datagram} (hs : s.Tidy)
    (h : s.step l = .ok (s', out)) {d : Datagram} (hd : d ∈ out) {m : Nat}
    (hm : requestedID d = some m) :
    ∃ c ∈ s.pendingMatchCreations, d = c.matchData.request := by
  cases effect_of_step h with
  | searched t =>
    rw [List.mem_singleton.1 hd, requestedID_sendDatagram (by decide) (by decide)] at hm
    cases hm
  | cancelled =>
    rw [List.mem_singleton.1 hd, requestedID_sendDatagram (by decide) (by decide)] at hm
    cases hm
  | confirmed before c after =>
    obtain ⟨p, -, rfl⟩ := List.mem_map.1 hd
    rw [matchFoundDatagram, requestedID_sendDatagram (by decide) (by decide)] at hm
    cases hm
  | retried now =>
    rw [processMatchCreations_eq] at hd
    obtain ⟨x, hx, hd⟩ := List.mem_flatMap.1 hd
    unfold sentForCreation at hd
    split at hd
    · have hc := mem_of_mem_withReadings hx
      refine ⟨x.1, hc, ?_⟩
      rw [List.mem_singleton.1 hd, createMatchDatagram, (hs.creations x.1 hc).1]
      rfl
    · simp at hd
  | resent now =>
    rw [processMatchSessionsACKS_eq] at hd
    obtain ⟨x, hx, hd⟩ := List.mem_flatMap.1 hd
    obtain ⟨p, hp, -, -, rfl⟩ := mem_sent_scanPlayers hd
    obtain ⟨matchID, playerID, hmsg⟩ := hs.sessions x.1 (mem_of_mem_withReadings hx) _
      (List.mem_map.2 ⟨p, hp, rfl⟩)
    replace hmsg : p.matchMessage = matchFoundMessage matchID playerID := hmsg
    rw [resendDatagram, hmsg, requestedID_matchFoundMessage] at hm
    cases hm
  | ignored => simp at hd
  | acked => simp at hd
  | rekeyed => simp at hd
  | paired => simp at hd

/-- A step issues numbered matches. -/
theorem numbered_issuedBy {s : MatchmakingServer} (hs : s.Tidy) {l : Step}
    {data : StartMatchData} (hdata : data ∈ issuedBy s l) : data.Numbered := by
  cases l with
  | handle now job =>
    simp only [issuedBy] at hdata
    split at hdata
    · obtain ⟨c, hc, rfl⟩ := List.mem_map.1 hdata
      have hmem : c ∈ s.pendingMatchCreations :=
        List.mem_of_find?_eq_some (Option.mem_toList.1 hc)
      exact (hs.creations c hmem).2
    · simp at hdata
  | processMatchmaking t now =>
    obtain ⟨new, hnew, -, -, -, -, hformed⟩ := exists_formed s t now
    rw [issuedBy, hnew, List.drop_left] at hdata
    obtain ⟨c, hc, rfl⟩ := List.mem_map.1 hdata
    exact (hformed c hc).2 hs.playersPerMatch
  | processMatchCreations now => simp [issuedBy] at hdata
  | processMatchSessionsACKS now => simp [issuedBy] at hdata

/-! ## The books of a run -/

/-- What holds of the matches of a run that ends in `s`. -/
structure Book (h : List (Transition MatchmakingServer Step (List Datagram)))
    (s : MatchmakingServer) : Prop where
  tidy : s.Tidy
  lastMatchID : s.lastMatchID = UInt32.ofNat (issued h).length
  ids : (issued h).map (·.matchID) = idsAfter 0 (issued h).length
  held : s.pendingData + (confirmed h : Multiset StartMatchData) ≤ issued h
  numbered : ∀ data ∈ issued h, data.Numbered
  requests : ∀ t ∈ h, ∀ d ∈ t.out, ∀ m, requestedID d = some m →
    ∃ data ∈ issued h, d = data.request

/-- What is pending was issued. -/
theorem Book.mem_issued {h : List (Transition MatchmakingServer Step (List Datagram))}
    {s : MatchmakingServer} (hb : Book h s) {c : PendingMatchCreation}
    (hc : c ∈ s.pendingMatchCreations) : c.matchData ∈ issued h := by
  have hmem : c.matchData ∈ s.pendingData := Multiset.mem_coe.2 (List.mem_map_of_mem hc)
  exact Multiset.mem_coe.1 (Multiset.mem_of_le hb.held (Multiset.mem_add.2 (.inl hmem)))

/-- **The books are kept**: every run from the start satisfies them. -/
theorem book_of_run {h : List (Transition MatchmakingServer Step (List Datagram))}
    {s : MatchmakingServer} (hr : Run h s) : Book h s := by
  induction hr with
  | nil =>
    exact ⟨tidy_initial, rfl, rfl, by simp [pendingData, initial, confirmed, issued],
      by simp [issued], by simp⟩
  | @snoc h s s' l out _ hstep ih =>
    have hissued : ∀ t : Transition MatchmakingServer Step (List Datagram),
        issued (h ++ [t]) = issued h ++ issuedBy t.pre t.label := fun t => by simp [issued]
    have hconfirmed : ∀ t : Transition MatchmakingServer Step (List Datagram),
        confirmed (h ++ [t]) = confirmed h ++ confirmedBy t.pre t.label := by
      intro t
      simp [confirmed]
    obtain ⟨hlast, hids⟩ := issuedBy_step hstep
    refine ⟨tidy_step ih.tidy hstep, ?_, ?_, ?_, ?_, ?_⟩
    · rw [hissued, List.length_append, UInt32.ofNat_add, hlast, ih.lastMatchID]
    · rw [hissued, List.length_append, idsAfter_add, List.map_append, ih.ids, hids,
        ih.lastMatchID, UInt32.zero_add]
    · rw [hissued, hconfirmed, ← Multiset.coe_add, ← Multiset.coe_add]
      calc s'.pendingData + (↑(confirmed h) + ↑(confirmedBy s l))
          = s'.pendingData + ↑(confirmedBy s l) + ↑(confirmed h) := by
            rw [add_left_comm, add_comm]
        _ ≤ s.pendingData + ↑(issuedBy s l) + ↑(confirmed h) :=
            add_le_add_left (pendingData_step hstep) _
        _ = s.pendingData + ↑(confirmed h) + ↑(issuedBy s l) := add_right_comm _ _ _
        _ ≤ ↑(issued h) + ↑(issuedBy s l) := add_le_add_left ih.held _
    · rw [hissued, List.forall_mem_append]
      exact ⟨ih.numbered, fun data hdata => numbered_issuedBy ih.tidy hdata⟩
    · intro t ht d hd m hm
      rw [hissued]
      rcases List.mem_append.1 ht with ht | ht
      · obtain ⟨data, hdata, heq⟩ := ih.requests t ht d hd m hm
        exact ⟨data, List.mem_append_left _ hdata, heq⟩
      · obtain rfl := List.mem_singleton.1 ht
        obtain ⟨c, hc, heq⟩ := request_of_step ih.tidy hstep hd hm
        exact ⟨c.matchData, List.mem_append_left _ (ih.mem_issued hc), heq⟩

/-- Numbers below `2 ^ 32` make different words. -/
theorem eq_of_ofNat_eq {i j : Nat} (hi : i < 4294967296) (hj : j < 4294967296)
    (h : UInt32.ofNat i = UInt32.ofNat j) : i = j := by
  have hnat := congrArg UInt32.toNat h
  rwa [UInt32.toNat_ofNat_of_lt' hi, UInt32.toNat_ofNat_of_lt' hj] at hnat

/-- **Fewer than `2 ^ 32` IDs are all different.** -/
theorem Book.ids_nodup {h : List (Transition MatchmakingServer Step (List Datagram))}
    {s : MatchmakingServer} (hb : Book h s) (hcount : (issued h).length < 4294967296) :
    ((issued h).map (·.matchID)).Nodup := by
  rw [hb.ids, idsAfter]
  refine List.Nodup.map_on ?_ List.nodup_range'
  intro i hi j hj hij
  rw [UInt32.zero_add, UInt32.zero_add] at hij
  have hi' := (List.mem_range'_1.1 hi).2
  have hj' := (List.mem_range'_1.1 hj).2
  exact eq_of_ofNat_eq (by omega) (by omega) hij

/-- What is confirmed in a run has as many IDs as matches. -/
theorem Book.confirmedIDs_nodup {h : List (Transition MatchmakingServer Step (List Datagram))}
    {s : MatchmakingServer} (hb : Book h s) (hcount : (issued h).length < 4294967296) :
    ((confirmed h).map (·.matchID)).Nodup := by
  have hle : (confirmed h : Multiset StartMatchData) ≤ issued h :=
    (Multiset.le_add_left _ _).trans hb.held
  have hmap := Multiset.map_le_map (f := fun data : StartMatchData => data.matchID) hle
  exact Multiset.coe_nodup.1 (Multiset.nodup_of_le hmap
    (Multiset.coe_nodup.2 (hb.ids_nodup hcount)))

/-- Two issued matches with one ID are one. -/
theorem Book.eq_of_matchID {h : List (Transition MatchmakingServer Step (List Datagram))}
    {s : MatchmakingServer} (hb : Book h s) (hcount : (issued h).length < 4294967296)
    {data data' : StartMatchData} (hdata : data ∈ issued h) (hdata' : data' ∈ issued h)
    (hid : data.matchID = data'.matchID) : data = data' :=
  List.inj_on_of_nodup_map (hb.ids_nodup hcount) hdata hdata' hid

/-- With as many IDs issued, no ID is higher. -/
theorem Book.matchID_le {h : List (Transition MatchmakingServer Step (List Datagram))}
    {s : MatchmakingServer} (hb : Book h s) (hcount : (issued h).length < 4294967296)
    {data : StartMatchData} (hdata : data ∈ issued h) :
    data.matchID.toNat ≤ (issued h).length := by
  have hmem : data.matchID ∈ (issued h).map (·.matchID) := List.mem_map_of_mem hdata
  rw [hb.ids, idsAfter] at hmem
  obtain ⟨i, hi, heq⟩ := List.mem_map.1 hmem
  have hi' := (List.mem_range'_1.1 hi).2
  rw [← heq, UInt32.zero_add, UInt32.toNat_ofNat_of_lt' (by simp only [UInt32.size]; omega)]
  omega

end MatchmakingServer

end ServiceServer
