import ServiceServer.Matchmaking.Sessions
import ServiceServer.Protocol.Acks
import Mathlib.Data.List.Flatten

/-!
# How often a player is told

A player is told of its match by a match-found message when its session is created, and by
the bare bytes of that message when a pass finds it overdue.  Here both are counted on
what the service sends.  The messages of two places differ, since no two sessions are
created under one ID and the players of a match are numbered: a datagram names the place
it is about.

* `sent_cases` — what a step sends: a match-found message, a bare one, or neither.
* `identities_run` — the pending sessions are some of those that were created.
* `count_first` — a place of a confirmed match is told of it once.
* `retries_step` — a step counts a retry for each bare message it sends a pending player.
* `retries_eq_told` — the retries of a player are the bare messages it was sent.
-/

namespace ServiceServer

open Lib

namespace MatchmakingServer

variable {s s' : MatchmakingServer} {l : Step} {out : List Datagram}
  {h : List (Transition MatchmakingServer Step (List Datagram))}

/-! ## The messages of a place -/

/-- What tells a player of its match again: its message, and nothing before it. -/
def againDatagram (matchID : UInt32) (p : ClientMatchInfo) : Datagram :=
  ⟨matchFoundMessage matchID p.playerID, p.ip, p.port⟩

/-- A message names a match and a player of it. -/
theorem matchFoundMessage_inj {m m' i i' : UInt32}
    (heq : matchFoundMessage m i = matchFoundMessage m' i') : m = m' ∧ i = i' := by
  have hm : m = m' := by
    rw [← UInt32.toNat_inj, ← matchID_matchFoundMessage m i, heq, matchID_matchFoundMessage]
  subst hm
  have hi := decimal_injective (List.append_cancel_left heq)
  exact ⟨rfl, UInt32.toNat_inj.1 hi⟩

theorem againDatagram_inj {m m' : UInt32} {p p' : ClientMatchInfo}
    (heq : againDatagram m p = againDatagram m' p') : m = m' ∧ p.playerID = p'.playerID :=
  matchFoundMessage_inj (congrArg Datagram.data heq)

theorem matchFoundDatagram_inj {m m' : UInt32} {p p' : ClientMatchInfo}
    (heq : matchFoundDatagram m p = matchFoundDatagram m' p') :
    m = m' ∧ p.playerID = p'.playerID := by
  have hdata := congrArg Datagram.data heq
  simp only [matchFoundDatagram, sendDatagram, createRawDatagram, List.cons.injEq,
    true_and] at hdata
  exact matchFoundMessage_inj hdata

/-- A bare message starts with a digit, which is no header. -/
theorem sendDatagram_ne_again (header : PacketHeader) (type : PacketType) (content : Bytes)
    (ip : IpAddress) (port : UInt16) (m : UInt32) (p : ClientMatchInfo) :
    sendDatagram header type content ip port ≠ againDatagram m p := by
  intro heq
  have hbyte : header.mask = 49 := (List.cons.inj (congrArg Datagram.data heq)).1
  cases header <;> cases hbyte

theorem sendDatagram_ne_first {header : PacketHeader} {type : PacketType} {content : Bytes}
    {ip : IpAddress} {port : UInt16} (htype : type ≠ .matchFound) (m : UInt32)
    (p : ClientMatchInfo) : sendDatagram header type content ip port ≠ matchFoundDatagram m p := by
  intro heq
  have hbytes := (List.cons.inj (congrArg Datagram.data heq)).2
  have hbyte : type.toByte = PacketType.matchFound.toByte := (List.cons.inj hbytes).1
  have hof := congrArg PacketType.ofByte hbyte
  rw [PacketType.ofByte_toByte, PacketType.ofByte_toByte] at hof
  exact htype hof

/-- A player of a pending session is resent the bare message of a place. -/
theorem Tidy.resendDatagram_eq (hs : s.Tidy) {session : MatchSession}
    (hsession : session ∈ s.pendingSessions) {p : PendingMatch} (hp : p ∈ session.players) :
    ∃ m q, resendDatagram p = againDatagram m q := by
  obtain ⟨m, i, hmessage⟩ := hs.sessions session hsession _ (List.mem_map_of_mem hp)
  replace hmessage : p.matchMessage = matchFoundMessage m i := hmessage
  exact ⟨m, { p.player with playerID := i }, by rw [resendDatagram, hmessage, againDatagram]⟩

/-! ## What a step sends -/

/-- **What a step sends**: the first messages of a match, the bare messages of a pass over
the sessions, or none of either. -/
theorem sent_cases (hstep : s.step l = .ok (s', out)) {d : Datagram} (hd : d ∈ out) :
    (∃ type content ip port, type ≠ .matchFound ∧ d = sendDatagram .urgent type content ip port) ∨
      (firstTold l out = out ∧ ∃ m p, d = matchFoundDatagram m p) ∨
      ∃ now, l = .processMatchSessionsACKS now ∧
        ∃ session ∈ s.pendingSessions, ∃ p ∈ session.players, d = resendDatagram p := by
  cases effect_of_step hstep with
  | searched t => exact .inl ⟨_, _, _, _, by decide, List.mem_singleton.1 hd⟩
  | cancelled => exact .inl ⟨_, _, _, _, by decide, List.mem_singleton.1 hd⟩
  | confirmed before c after htype =>
    obtain ⟨p, -, rfl⟩ := List.mem_map.1 hd
    exact .inr (.inl ⟨if_pos htype, _, p, rfl⟩)
  | retried now =>
    rw [processMatchCreations_eq] at hd
    obtain ⟨x, -, hd⟩ := List.mem_flatMap.1 hd
    unfold sentForCreation at hd
    split at hd
    · exact .inl ⟨_, _, _, _, by decide, List.mem_singleton.1 hd⟩
    · cases hd
  | resent now =>
    rw [processMatchSessionsACKS_eq] at hd
    obtain ⟨x, hx, hd⟩ := List.mem_flatMap.1 hd
    obtain ⟨p, hp, -, -, rfl⟩ := mem_sent_scanPlayers hd
    exact .inr (.inr ⟨now, rfl, x.1, mem_of_mem_withReadings hx, p, hp, rfl⟩)
  | ignored => cases hd
  | acked => cases hd
  | rekeyed => cases hd
  | paired => cases hd

theorem firstTold_subset (l : Step) (out : List Datagram) : firstTold l out ⊆ out := by
  unfold firstTold
  split
  · split_ifs
    · exact List.Subset.refl _
    · exact List.nil_subset _
  · exact List.nil_subset _

/-- Only a pass over the sessions tells a player again. -/
theorem pass_of_again (hstep : s.step l = .ok (s', out)) {m : UInt32} {p : ClientMatchInfo}
    (hd : againDatagram m p ∈ out) : ∃ now, l = .processMatchSessionsACKS now := by
  rcases sent_cases hstep hd with ⟨type, content, ip, port, -, heq⟩ | ⟨-, m', p', heq⟩ |
    ⟨now, hl, -⟩
  · exact absurd heq.symm (sendDatagram_ne_again _ _ _ _ _ m p)
  · exact absurd heq.symm (sendDatagram_ne_again _ _ _ _ _ m p)
  · exact ⟨now, hl⟩

/-- Only `CreateMatchSession` tells a player first. -/
theorem firstTold_of_first (hs : s.Tidy) (hstep : s.step l = .ok (s', out)) {m : UInt32}
    {p : ClientMatchInfo} (hd : matchFoundDatagram m p ∈ out) : firstTold l out = out := by
  rcases sent_cases hstep hd with ⟨type, content, ip, port, htype, heq⟩ | ⟨hfirst, -⟩ |
    ⟨now, -, session, hsession, q, hq, heq⟩
  · exact absurd heq.symm (sendDatagram_ne_first htype m p)
  · exact hfirst
  · obtain ⟨m', q', hagain⟩ := hs.resendDatagram_eq hsession hq
    exact absurd (heq.trans hagain) (sendDatagram_ne_again _ _ _ _ _ m' q')

/-! ## Places -/

/-- The places in some matches: in which match, and whose. -/
def places (ms : List StartMatchData) : List (UInt32 × ClientMatchInfo) :=
  ms.flatMap fun data => data.players.map fun p => (data.matchID, p)

/-- The players of a numbered match have IDs of their own. -/
theorem nodup_playerIDs {data : StartMatchData} (hnum : data.Numbered) :
    (data.players.map ClientMatchInfo.playerID).Nodup := by
  have hlen : data.players.length < 4294967296 := by
    have hmax := data.numOfPlayers.toInt_lt
    have hcount := hnum.2
    omega
  rw [hnum.1]
  refine List.Nodup.map_on ?_ List.nodup_range
  intro i hi j hj hij
  have hi' := List.mem_range.1 hi
  have hj' := List.mem_range.1 hj
  exact eq_of_ofNat_eq (by omega) (by omega) hij

/-- **A place is known by the ID of its match and that of its player.** -/
theorem nodup_placeIDs {ms : List StartMatchData} (hids : (ms.map (·.matchID)).Nodup)
    (hnum : ∀ data ∈ ms, data.Numbered) :
    ((places ms).map fun x => (x.1, x.2.playerID)).Nodup := by
  have hkeys : (places ms).map (fun x => (x.1, x.2.playerID))
      = ms.flatMap fun data => data.players.map fun p => (data.matchID, p.playerID) := by
    simp only [places, List.map_flatMap, List.map_map, Function.comp_def]
  rw [hkeys, List.nodup_flatMap]
  constructor
  · intro data hdata
    refine List.Nodup.of_map Prod.snd ?_
    rw [List.map_map]
    exact nodup_playerIDs (hnum data hdata)
  · refine (List.pairwise_map.1 hids).imp ?_
    intro data data' hne x hx hx'
    obtain ⟨p, -, rfl⟩ := List.mem_map.1 hx
    obtain ⟨p', -, heq⟩ := List.mem_map.1 hx'
    exact hne (congrArg Prod.fst heq).symm

/-- What names its place differs from place to place. -/
theorem Book.nodup_places (hb : Book h s) (hcount : (issued h).length < 4294967296) {α : Type}
    {f : UInt32 × ClientMatchInfo → α}
    (hf : ∀ x y, f x = f y → x.1 = y.1 ∧ x.2.playerID = y.2.playerID) :
    ((places (confirmed h)).map f).Nodup := by
  have hnum : ∀ data ∈ confirmed h, data.Numbered := by
    intro data hdata
    have hle : (confirmed h : Multiset StartMatchData) ≤ issued h :=
      (Multiset.le_add_left _ _).trans hb.held
    exact hb.numbered data (Multiset.mem_coe.1 (Multiset.mem_of_le hle hdata))
  have hkeys := nodup_placeIDs (hb.confirmedIDs_nodup hcount) hnum
  refine List.Nodup.map_on ?_ hkeys.of_map
  intro x hx y hy hxy
  exact List.inj_on_of_nodup_map hkeys hx hy (Prod.ext (hf x y hxy).1 (hf x y hxy).2)

/-! ## The first message -/

/-- **A place of a confirmed match is told of it once.** -/
theorem count_first (hr : Run h s) (hcount : (issued h).length < 4294967296)
    {m : UInt32} {p : ClientMatchInfo} (hplace : (m, p) ∈ places (confirmed h)) :
    (h.flatMap (·.out)).count (matchFoundDatagram m p) = 1 := by
  -- every first message is sent by a step that confirms its match
  have hsteps : ∀ t ∈ h, t.out.count (matchFoundDatagram m p)
      = (firstTold t.label t.out).count (matchFoundDatagram m p) := by
    intro t ht
    obtain ⟨h₁, h₂, rfl⟩ := List.append_of_mem ht
    obtain ⟨hr₁, hstep, -⟩ := hr.mem_split
    by_cases hd : matchFoundDatagram m p ∈ t.out
    · rw [firstTold_of_first (book_of_run hr₁).tidy hstep hd]
    · have hnot : matchFoundDatagram m p ∉ firstTold t.label t.out :=
        fun hfirst => hd (firstTold_subset t.label t.out hfirst)
      rw [List.count_eq_zero.2 hd, List.count_eq_zero.2 hnot]
  have hsent : (h.flatMap fun t => firstTold t.label t.out)
      = (places (confirmed h)).map fun x => matchFoundDatagram x.1 x.2 := by
    rw [places, List.map_flatMap, confirmed, List.flatMap_assoc]
    refine List.flatMap_congr fun t ht => ?_
    rw [confirmedBy_step (hr.step_of_mem ht)]
    simp only [List.map_map, Function.comp_def]
  have hnodup : ((places (confirmed h)).map fun x => matchFoundDatagram x.1 x.2).Nodup :=
    (book_of_run hr).nodup_places hcount fun _ _ heq => matchFoundDatagram_inj heq
  calc (h.flatMap (·.out)).count (matchFoundDatagram m p)
      = (h.flatMap fun t => firstTold t.label t.out).count (matchFoundDatagram m p) := by
        rw [List.count_flatMap, List.count_flatMap]
        exact congrArg List.sum (List.map_congr_left hsteps)
    _ = 1 := by
        rw [hsent]
        exact List.count_eq_one_of_mem hnodup (List.mem_map.2 ⟨(m, p), hplace, rfl⟩)

/-! ## The sessions of a run -/

/-- **The pending sessions are some of those that were created**, in order. -/
theorem identities_run (hr : Run h s) :
    (s.pendingSessions.map (·.identity)).Sublist ((confirmed h).map sessionIdentity) := by
  induction hr with
  | nil => exact List.Sublist.refl _
  | @snoc h s s' l out _ hstep ih =>
    obtain ⟨kept, hkept, hsessions⟩ := sessions_step hstep
    rw [hsessions, confirmed, List.flatMap_append, List.flatMap_singleton, List.map_append]
    exact (hkept.trans ih).append_right _

/-- A player of a session of a match has a place in the match, and is resent its message. -/
theorem resendDatagram_of_identity {session : MatchSession} {data : StartMatchData}
    (hid : session.identity = sessionIdentity data) {p : PendingMatch}
    (hp : p ∈ session.players) :
    p.player ∈ data.players ∧ resendDatagram p = againDatagram data.matchID p.player := by
  have hmem : (p.player, p.matchMessage, p.matchType) ∈ session.identity :=
    List.mem_map_of_mem hp
  rw [hid] at hmem
  obtain ⟨q, hq, heq⟩ := List.mem_map.1 hmem
  simp only [Prod.mk.injEq] at heq
  obtain ⟨rfl, hmessage, -⟩ := heq
  exact ⟨hq, by rw [resendDatagram, ← hmessage, againDatagram]⟩

/-- The bare messages of the players of the pending sessions. -/
def pendingAgain (s : MatchmakingServer) : List Datagram :=
  s.pendingSessions.flatMap fun session => session.players.map resendDatagram

/-- The bare messages of the matches a run confirmed. -/
def confirmedAgain (h : List (Transition MatchmakingServer Step (List Datagram))) :
    List Datagram :=
  (places (confirmed h)).map fun x => againDatagram x.1 x.2

theorem confirmedAgain_append (h h' : List (Transition MatchmakingServer Step (List Datagram))) :
    confirmedAgain (h ++ h') = confirmedAgain h ++ confirmedAgain h' := by
  simp only [confirmedAgain, places, confirmed, List.flatMap_append, List.map_append]

/-- The bare message of a player, from what its session keeps of it. -/
def bareDatagram (x : ClientMatchInfo × Bytes × MatchType) : Datagram :=
  ⟨x.2.1, x.1.ip, x.1.port⟩

theorem pendingAgain_sublist (hr : Run h s) : (pendingAgain s).Sublist (confirmedAgain h) := by
  have hpending : pendingAgain s
      = (s.pendingSessions.map (·.identity)).flatMap fun ids => ids.map bareDatagram := by
    rw [pendingAgain, List.flatMap_map]
    refine List.flatMap_congr fun session _ => ?_
    rw [MatchSession.identity, List.map_map]
    rfl
  have hconfirmed : confirmedAgain h
      = ((confirmed h).map sessionIdentity).flatMap fun ids => ids.map bareDatagram := by
    rw [confirmedAgain, places, List.map_flatMap, List.flatMap_map]
    refine List.flatMap_congr fun data _ => ?_
    rw [sessionIdentity, List.map_map, List.map_map]
    rfl
  rw [hpending, hconfirmed]
  exact (identities_run hr).flatMap _

theorem nodup_confirmedAgain (hr : Run h s) (hcount : (issued h).length < 4294967296) :
    (confirmedAgain h).Nodup :=
  (book_of_run hr).nodup_places hcount fun _ _ heq => againDatagram_inj heq

theorem nodup_pendingAgain (hr : Run h s) (hcount : (issued h).length < 4294967296) :
    (pendingAgain s).Nodup :=
  (nodup_confirmedAgain hr hcount).sublist (pendingAgain_sublist hr)

/-! ## A pass over the sessions -/

/-- The players a pass looks at, each with its reading. -/
def scanned (s : MatchmakingServer) (now : Nat → Nat → ClockReading) :
    List (PendingMatch × ClockReading) :=
  (withReadings now s.pendingSessions).flatMap fun x => withReadings x.2 x.1.players

theorem map_scanned (s : MatchmakingServer) (now : Nat → Nat → ClockReading) :
    ((scanned s now).map fun y => resendDatagram y.1) = pendingAgain s := by
  have hplayers : ∀ x : MatchSession × (Nat → ClockReading),
      (withReadings x.2 x.1.players).map (fun y => resendDatagram y.1)
        = x.1.players.map resendDatagram := by
    intro x
    conv_rhs => rw [← map_fst_withReadings x.2 x.1.players, List.map_map]
    rfl
  rw [scanned, List.map_flatMap, pendingAgain]
  conv_rhs => rw [← map_fst_withReadings now s.pendingSessions, List.flatMap_map]
  exact List.flatMap_congr fun x _ => hplayers x

/-- It sends to no player twice, and to no one else. -/
theorem pass_sublist (s : MatchmakingServer) (now : Nat → Nat → ClockReading) :
    (s.processMatchSessionsACKS now).2.Sublist (pendingAgain s) := by
  have hresent : ∀ ys : List (PendingMatch × ClockReading),
      (ys.flatMap resentTo).Sublist (ys.map fun y => resendDatagram y.1) := by
    intro ys
    rw [List.map_eq_flatMap]
    refine List.Sublist.flatMap_right ys fun y _ => ?_
    unfold resentTo
    split_ifs
    · exact List.Sublist.refl _
    · exact List.nil_sublist _
  rw [sent_processMatchSessionsACKS, ← map_scanned s now, scanned, List.map_flatMap]
  exact List.Sublist.flatMap_right _ fun x _ =>
    (sessionSent_prefix_resent x).sublist.trans (hresent _)

/-- **A pass counts a retry for each bare message it sends**, in the sessions it keeps. -/
theorem retries_resentPlayer {now : Nat → Nat → ClockReading} (hnodup : (pendingAgain s).Nodup)
    {x : MatchSession × (Nat → ClockReading)} (hx : x ∈ withReadings now s.pendingSessions)
    (hgive : ¬ GivesUp x.1 x.2) {y : PendingMatch × ClockReading}
    (hy : y ∈ withReadings x.2 x.1.players) :
    (resentPlayer y).retries = y.1.retries
      + ((s.processMatchSessionsACKS now).2.count (resendDatagram y.1) : Int) := by
  by_cases hover : Overdue y.1 y.2
  · have hmem : resendDatagram y.1 ∈ (s.processMatchSessionsACKS now).2 := by
      rw [sent_processMatchSessionsACKS]
      refine List.mem_flatMap.2 ⟨x, hx, ?_⟩
      rw [sessionSent_eq hgive]
      refine List.mem_flatMap.2 ⟨y, hy, ?_⟩
      rw [resentTo, if_pos hover]
      exact List.mem_singleton_self _
    rw [resentPlayer, if_pos hover,
      List.count_eq_one_of_mem (hnodup.sublist (pass_sublist s now)) hmem]
    rfl
  · have hnot : resendDatagram y.1 ∉ (s.processMatchSessionsACKS now).2 := by
      intro hmem
      rw [sent_processMatchSessionsACKS] at hmem
      obtain ⟨x', hx', hmem⟩ := List.mem_flatMap.1 hmem
      obtain ⟨z, hz, hmem⟩ := List.mem_flatMap.1 ((sessionSent_prefix_resent x').subset hmem)
      unfold resentTo at hmem
      split_ifs at hmem with hoverz
      · -- the message names its player, so it was sent to this one
        rw [← map_scanned s now] at hnodup
        obtain rfl : y = z := List.inj_on_of_nodup_map hnodup
          (List.mem_flatMap.2 ⟨x, hx, hy⟩) (List.mem_flatMap.2 ⟨x', hx', hz⟩)
          (List.mem_singleton.1 hmem)
        exact hover hoverz
      · cases hmem
    rw [resentPlayer, if_neg hover, List.count_eq_zero.2 hnot]
    exact (Int.add_zero _).symm

/-- **One step**: a player that is pending after it was so before, with a retry less for each
bare message the step sent it, or is of a match the step confirms, with none. -/
theorem retries_step (hs : s.Tidy) (hstep : s.step l = .ok (s', out))
    (hnodup : (pendingAgain s).Nodup) {session' : MatchSession}
    (hsession' : session' ∈ s'.pendingSessions) {p' : PendingMatch}
    (hp' : p' ∈ session'.players) :
    (∃ session ∈ s.pendingSessions, ∃ p ∈ session.players,
        resendDatagram p' = resendDatagram p ∧
          p'.retries = p.retries + (out.count (resendDatagram p) : Int)) ∨
      ∃ data ∈ confirmedBy s l, ∃ q ∈ data.players,
        resendDatagram p' = againDatagram data.matchID q ∧ p'.retries = 0 := by
  by_cases hpass : ∃ now, l = .processMatchSessionsACKS now
  · obtain ⟨now, rfl⟩ := hpass
    simp only [step, Except.ok.injEq] at hstep
    obtain rfl : (s.processMatchSessionsACKS now).1 = s' := congrArg Prod.fst hstep
    obtain rfl : (s.processMatchSessionsACKS now).2 = out := congrArg Prod.snd hstep
    rw [pendingSessions_processMatchSessionsACKS] at hsession'
    obtain ⟨x, hx, hleft⟩ := List.mem_filterMap.1 hsession'
    unfold sessionLeft at hleft
    split_ifs at hleft with hremoved
    cases hleft
    obtain ⟨y, hy, rfl⟩ := List.mem_map.1 hp'
    refine .inl ⟨x.1, mem_of_mem_withReadings hx, y.1, mem_of_mem_withReadings hy, ?_,
      retries_resentPlayer hnodup hx (fun hgive => hremoved (.inr hgive)) hy⟩
    unfold resentPlayer
    split_ifs <;> rfl
  · have hnone : ∀ session ∈ s.pendingSessions, ∀ p ∈ session.players,
        out.count (resendDatagram p) = 0 := by
      intro session hsession p hp
      rw [List.count_eq_zero]
      intro hd
      obtain ⟨m, q, hagain⟩ := hs.resendDatagram_eq hsession hp
      exact hpass (pass_of_again hstep (hagain ▸ hd))
    cases comes_of_step hstep hsession' with
    | same hold =>
      refine .inl ⟨session', hold, p', hp', rfl, ?_⟩
      rw [hnone session' hold p' hp']
      exact (Int.add_zero _).symm
    | acked hold =>
      obtain ⟨p, hp, rfl⟩ := List.mem_map.1 hp'
      refine .inl ⟨_, hold, p, hp, ?_, ?_⟩
      · unfold ackPlayer
        split_ifs <;> rfl
      · rw [hnone _ hold p hp]
        unfold ackPlayer
        split_ifs <;> exact (Int.add_zero _).symm
    | @created now _ data hdata =>
      obtain ⟨hplayer, hagain⟩ :=
        resendDatagram_of_identity (identity_sessionPlayers data now) hp'
      exact .inr ⟨data, hdata, p'.player, hplayer, hagain, retries_sessionPlayers hp'⟩
    | resent => exact absurd ⟨_, rfl⟩ hpass

/-! ## Every run -/

/-- A bare message goes out in a pass over the sessions, which tells pending players only. -/
theorem again_of_step (hstep : s.step l = .ok (s', out)) {m : UInt32} {p : ClientMatchInfo}
    (hd : againDatagram m p ∈ out) :
    (∃ now, l = .processMatchSessionsACKS now) ∧ out.Sublist (pendingAgain s) := by
  obtain ⟨now, rfl⟩ := pass_of_again hstep hd
  obtain rfl : (s.processMatchSessionsACKS now).2 = out :=
    congrArg Prod.snd (Except.ok.inj hstep)
  exact ⟨⟨now, rfl⟩, pass_sublist s now⟩

/-- Nobody is told again of a match that was not confirmed. -/
theorem mem_confirmedAgain (hr : Run h s) {m : UInt32} {p : ClientMatchInfo}
    (hd : againDatagram m p ∈ h.flatMap (·.out)) : againDatagram m p ∈ confirmedAgain h := by
  obtain ⟨t, ht, hout⟩ := List.mem_flatMap.1 hd
  obtain ⟨h₁, h₂, rfl⟩ := List.append_of_mem ht
  obtain ⟨hr₁, hstep, -⟩ := hr.mem_split
  have hpending := (again_of_step hstep hout).2.subset hout
  rw [confirmedAgain_append]
  exact List.mem_append_left _ ((pendingAgain_sublist hr₁).subset hpending)

/-- **The retries of a pending player count the bare messages it was sent.** -/
theorem count_again (hr : Run h s) (hcount : (issued h).length < 4294967296) :
    ∀ session ∈ s.pendingSessions, ∀ p ∈ session.players,
      ((h.flatMap (·.out)).count (resendDatagram p) : Int) = p.retries := by
  induction hr with
  | nil => simp [initial]
  | @snoc h s s' l out hr hstep ih =>
    intro session' hsession' p' hp'
    have hnodup := nodup_confirmedAgain (hr.snoc hstep) hcount
    rw [confirmedAgain_append] at hnodup
    have hcount₀ := (length_issued_le h _).trans_lt hcount
    have hpending := nodup_pendingAgain hr hcount₀
    rw [List.flatMap_append, List.flatMap_singleton]
    rcases retries_step (book_of_run hr).tidy hstep hpending hsession' hp' with
      ⟨session, hsession, p, hp, hsame, hretries⟩ | ⟨data, hdata, q, hq, hnew, hretries⟩
    · rw [List.count_append, Nat.cast_add, hsame, hretries, ih hcount₀ session hsession p hp]
    · -- nobody was sent the message of a place that is new
      have hplace : (data.matchID, q) ∈ places (confirmed [⟨s, l, out, s'⟩]) := by
        rw [confirmed, List.flatMap_singleton]
        exact List.mem_flatMap.2 ⟨data, hdata, List.mem_map_of_mem hq⟩
      have hfresh : againDatagram data.matchID q ∉ confirmedAgain h := fun hold =>
        (List.nodup_append.1 hnodup).2.2 _ hold _ (List.mem_map.2 ⟨_, hplace, rfl⟩) rfl
      have hnone : againDatagram data.matchID q ∉ h.flatMap (·.out) ++ out := by
        intro hd
        rcases List.mem_append.1 hd with hpast | hnow
        · exact hfresh (mem_confirmedAgain hr hpast)
        · exact hfresh ((pendingAgain_sublist hr).subset ((again_of_step hstep hnow).2.subset hnow))
      rw [hnew, hretries, List.count_eq_zero.2 hnone]
      rfl

/-- A bare message is sent by a pass over the sessions, once in a pass. -/
theorem again_once (hr : Run h s) (hcount : (issued h).length < 4294967296)
    {t : Transition MatchmakingServer Step (List Datagram)} (ht : t ∈ h) {m : UInt32}
    {p : ClientMatchInfo} (hd : againDatagram m p ∈ t.out) :
    t.out.count (againDatagram m p) = 1 ∧ ∃ now, t.label = .processMatchSessionsACKS now := by
  obtain ⟨h₁, h₂, rfl⟩ := List.append_of_mem ht
  obtain ⟨hr₁, hstep, -⟩ := hr.mem_split
  obtain ⟨hpass, hsent⟩ := again_of_step hstep hd
  have hcount₁ := (length_issued_le h₁ _).trans_lt hcount
  have hout := (nodup_pendingAgain hr₁ hcount₁).sublist hsent
  exact ⟨List.count_eq_one_of_mem hout hd, hpass⟩

/-- **How often a player is told about its match.**  In every run with fewer than `2 ^ 32`
IDs, each pending session has the players of one confirmed match, in order.  Each of them was
sent the match-found message of its place once, and the bare message as often as its retries
say, five times at most; a bare message is sent by a pass over the sessions, to a player once
in a pass. -/
theorem retries_eq_told (hr : Run h s) (hcount : (issued h).length < 4294967296)
    {session : MatchSession} (hsession : session ∈ s.pendingSessions) :
    ∃ data ∈ confirmed h, session.players.map (·.player) = data.players ∧
      ∀ p ∈ session.players,
        (h.flatMap (·.out)).count (matchFoundDatagram data.matchID p.player) = 1 ∧
        ((h.flatMap (·.out)).count (againDatagram data.matchID p.player) : Int) = p.retries ∧
        p.retries ≤ 5 ∧
        ∀ t ∈ h, againDatagram data.matchID p.player ∈ t.out →
          t.out.count (againDatagram data.matchID p.player) = 1 ∧
            ∃ now, t.label = .processMatchSessionsACKS now := by
  obtain ⟨data, hdata, hid⟩ :=
    List.mem_map.1 ((identities_run hr).subset (List.mem_map_of_mem hsession))
  refine ⟨data, hdata, ?_, ?_⟩
  · have hplayers := congrArg (List.map Prod.fst) hid
    simpa [MatchSession.identity, sessionIdentity, Function.comp_def] using hplayers.symm
  intro p hp
  obtain ⟨hplayer, hagain⟩ := resendDatagram_of_identity hid.symm hp
  have hplace : (data.matchID, p.player) ∈ places (confirmed h) :=
    List.mem_flatMap.2 ⟨data, hdata, List.mem_map_of_mem hplayer⟩
  refine ⟨count_first hr hcount hplace, ?_, (retries_bounds ⟨h, hr⟩ session hsession p hp).2, ?_⟩
  · rw [← hagain]
    exact count_again hr hcount session hsession p hp
  · exact fun t ht hd => again_once hr hcount ht hd

/-- Two seconds after their session is created two players are told again, and neither of
them three seconds after it. -/
theorem retries_eq_told_once : ∃ h s session, Run h s ∧ session ∈ s.pendingSessions ∧
    ∃ data ∈ confirmed h, session.players.map (·.player) = data.players ∧
      ∀ p ∈ session.players, p.retries = 1 ∧
        ((h.flatMap (·.out)).count (againDatagram data.matchID p.player) : Int) = 1 := by
  obtain ⟨h, s, hr, hcount, hone, hretries⟩ := Machine.exists_run_of_exec (M := machine)
    (s := initial) (l := twoTold 0 ++ [.processMatchSessionsACKS fun _ _ => ⟨2000000, 2000000⟩,
      .processMatchSessionsACKS fun _ _ => ⟨3000000, 3000000⟩])
    (P := fun h s => (issued h).length < 4294967296 ∧ s.pendingSessions ≠ [] ∧
      ∀ session ∈ s.pendingSessions, ∀ p ∈ session.players, p.retries = 1) (by decide +kernel)
  obtain ⟨session, hsession⟩ := List.exists_mem_of_ne_nil _ hone
  obtain ⟨data, hdata, hplayers, htold⟩ := retries_eq_told hr hcount hsession
  refine ⟨h, s, session, hr, hsession, data, hdata, hplayers, fun p hp => ?_⟩
  have hp₁ := hretries session hsession p hp
  obtain ⟨-, hagain, -⟩ := htold p hp
  exact ⟨hp₁, hagain.trans hp₁⟩

end MatchmakingServer

end ServiceServer
