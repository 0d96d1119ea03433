import ServiceServer.Protocol.Agreement

/-!
# What a reply of the game server does

A reply names a match by its ID, in decimal.  Two questions are asked of it: does
it reach the creation it names, and can it reach any other, now or later?

* `replyAnswered_iff` — a reply does what it is for unless its ID is `2 ^ 31` or
  more and a creation is pending: `std::stoi` gives up on such an ID.
* `ids_identify_one_match` — in a run with fewer than `2 ^ 32` IDs, an ID belongs
  to one match: it is pending once, issued once, confirmed at most once, and a
  reply that comes after it was given up finds nothing.
-/

namespace ServiceServer

open Lib

namespace MatchmakingServer

/-- The IDs of the pending creations. -/
def pendingIDs (s : MatchmakingServer) : List UInt32 :=
  s.pendingMatchCreations.map (·.matchData.matchID)

/-! ## What a reply is for -/

/-- The session of a confirmed match: its players in their order, each with a
message to resend and nothing acknowledged yet. -/
structure SessionOf (data : StartMatchData) (matchID : UInt32) (session : MatchSession) :
    Prop where
  players : session.players.map (·.player) = data.players
  entries : ∀ p ∈ session.players, p.retries = 0 ∧ p.ackRecieved = false ∧
    p.matchType = data.type ∧ p.matchMessage = matchFoundMessage matchID p.player.playerID

/-- A creation and what is left of it once its match has a new ID. -/
structure Rekeyed (matchID : UInt32) (c c' : PendingMatchCreation) : Prop where
  matchData : c'.matchData = { c.matchData with matchID := matchID }
  serialized : c'.serialized = serializeMatch c'.matchData
  attempts : c'.attempts = 0

/-- What `MATCH_UNIQUE` is for: the creation with the ID becomes a session, and
an ID that is not pending is ignored. -/
structure ConfirmsMatch (s : MatchmakingServer) (matchID : UInt32) (r : HandlerResult) :
    Prop where
  found : ∀ c ∈ s.pendingMatchCreations, c.matchData.matchID = matchID →
    ∃ session sent, SessionOf c.matchData matchID session ∧ r = .ok ({ s with
      pendingMatchCreations := s.pendingMatchCreations.filter (·.matchData.matchID ≠ matchID)
      pendingSessions := s.pendingSessions ++ [session] }, sent)
  unknown : matchID ∉ s.pendingIDs → r = .ok (s, [])

/-- What `MATCH_USED` is for: the creation with the ID is given the next one, and
an ID that is not pending is ignored. -/
structure RenewsMatch (s : MatchmakingServer) (matchID : UInt32) (r : HandlerResult) :
    Prop where
  found : matchID ∈ s.pendingIDs → ∃ cs, r = .ok ({ s with
      lastMatchID := s.lastMatchID + 1
      pendingMatchCreations := cs }, []) ∧
    List.Forall₂ (fun c c' => if c.matchData.matchID = matchID
      then Rekeyed (s.lastMatchID + 1) c c' else c' = c) s.pendingMatchCreations cs
  unknown : matchID ∉ s.pendingIDs → r = .ok (s, [])

/-- The handling of a reply does what the reply is for. -/
def ReplyAnswered (s : MatchmakingServer) (matchID : UInt32) (now : Nat → Micros)
    (job : RawPacketJob) : Prop :=
  (job.type = .matchUnique → s.ConfirmsMatch matchID (s.step (.handle now job))) ∧
    (job.type = .matchUsed → s.RenewsMatch matchID (s.step (.handle now job)))

/-! ## When it does it -/

/-- The only creation of a list with its ID, and the others. -/
theorem filter_matchID_ne {before after : List PendingMatchCreation} {c : PendingMatchCreation}
    (hids : ((before ++ c :: after).map (·.matchData.matchID)).Nodup) :
    (before ++ c :: after).filter (·.matchData.matchID ≠ c.matchData.matchID) = before ++ after ∧
      ∀ b ∈ before ++ after, b.matchData.matchID ≠ c.matchData.matchID := by
  have hother : ∀ b ∈ before ++ after, b.matchData.matchID ≠ c.matchData.matchID := by
    intro b hb heq
    have hperm : (before ++ c :: after).Perm (c :: (before ++ after)) := List.perm_middle
    rw [(hperm.map _).nodup_iff, List.map_cons, List.nodup_cons] at hids
    exact hids.1 (heq ▸ List.mem_map_of_mem hb)
  refine ⟨?_, hother⟩
  have hkeep : ∀ l : List PendingMatchCreation, (∀ b ∈ l, b ∈ before ++ after) →
      l.filter (·.matchData.matchID ≠ c.matchData.matchID) = l := by
    intro l hl
    rw [List.filter_eq_self]
    intro b hb
    simpa using hother b (hl b hb)
  rw [List.filter_append, List.filter_cons_of_neg (by simp),
    hkeep before fun b hb => List.mem_append_left _ hb,
    hkeep after fun b hb => List.mem_append_right _ hb]

theorem sessionOf_sessionPlayers (data : StartMatchData) (now : Nat → Micros) :
    SessionOf data data.matchID ⟨sessionPlayers data now data.players⟩ := by
  suffices h : ∀ (ps : List ClientMatchInfo) (now : Nat → Micros),
      (sessionPlayers data now ps).map (·.player) = ps ∧
        ∀ p ∈ sessionPlayers data now ps, p.retries = 0 ∧ p.ackRecieved = false ∧
          p.matchType = data.type ∧
          p.matchMessage = matchFoundMessage data.matchID p.player.playerID from
    ⟨(h data.players now).1, (h data.players now).2⟩
  intro ps
  induction ps with
  | nil =>
    intro now
    exact ⟨rfl, by simp [sessionPlayers]⟩
  | cons p ps ih =>
    intro now
    obtain ⟨hplayers, hentries⟩ := ih fun i => now (i + 1)
    refine ⟨by rw [sessionPlayers, List.map_cons, hplayers], ?_⟩
    intro q hq
    rcases List.mem_cons.1 hq with rfl | hq
    · exact ⟨rfl, rfl, rfl, rfl⟩
    · exact hentries q hq

/-- A reply throws only if its content is no `int`. -/
theorem stoi_error_of_reply {s : MatchmakingServer} {now : Nat → Micros} {job : RawPacketJob}
    {e : Exception} (hreply : IsReply job) (h : s.step (.handle now job) = .error e) :
    s.pendingMatchCreations ≠ [] ∧ stoi job.content = .error e := by
  rw [← searchLoop_error_iff]
  rcases hreply with htype | htype
  · simp only [step, dispatch, htype, subcribeActionHandlers, matchUniqueHandler] at h
    split at h
    · rename_i hloop
      cases h
      exact hloop
    · cases h
    · cases h
  · simp only [step, dispatch, htype, subcribeActionHandlers, matchUsedHandler] at h
    split at h
    · rename_i hloop
      cases h
      exact hloop
    · cases h
    · cases h

/-- A reply whose content `std::stoi` rejects throws as soon as a creation is
pending. -/
theorem reply_error {s : MatchmakingServer} {now : Nat → Micros} {job : RawPacketJob}
    {e : Exception} (hreply : IsReply job) (hcs : s.pendingMatchCreations ≠ [])
    (hstoi : stoi job.content = .error e) : s.step (.handle now job) = .error e := by
  have hloop : searchLoop job.content s.pendingMatchCreations = .error e :=
    searchLoop_error_iff.2 ⟨hcs, hstoi⟩
  rcases hreply with htype | htype
  · simp [step, dispatch, htype, subcribeActionHandlers, matchUniqueHandler, hloop]
  · simp [step, dispatch, htype, subcribeActionHandlers, matchUsedHandler, hloop]

/-- A reply that names no pending creation, and that can be read, is ignored. -/
theorem reply_ignored (s : MatchmakingServer) (now : Nat → Micros) {job : RawPacketJob}
    (hreply : IsReply job) (hnone : ∀ c ∈ s.pendingMatchCreations, named job.content c = false) :
    s.step (.handle now job) = .ok (s, []) ∨
      ∃ e, s.step (.handle now job) = .error e ∧ stoi job.content = .error e := by
  cases hs : s.step (.handle now job) with
  | error e => exact .inr ⟨e, rfl, (stoi_error_of_reply hreply hs).2⟩
  | ok r =>
    obtain ⟨s', out⟩ := r
    cases effect_of_step hs with
    | ignored => exact .inl rfl
    | searched _ htype => rcases hreply with h | h <;> simp [h] at htype
    | cancelled htype => rcases hreply with h | h <;> simp [h] at htype
    | acked htype => rcases hreply with h | h <;> simp [h] at htype
    | confirmed _ c _ _ hcs hnamed =>
      have hno := hnone c (by simp [hcs])
      rw [hnamed] at hno
      cases hno
    | rekeyed _ c _ _ hcs hnamed =>
      have hno := hnone c (by simp [hcs])
      rw [hnamed] at hno
      cases hno

/-- Below `2 ^ 31` an ID is read as it was printed. -/
theorem named_decimal_iff {matchID : UInt32} (hsmall : matchID.toNat < 2147483648)
    (c : PendingMatchCreation) :
    named (decimal matchID.toNat) c = true ↔ c.matchData.matchID = matchID := by
  rw [named_decimal (by omega), UInt32.toNat_inj]

theorem stoi_decimal_ne_error {matchID : UInt32} (hsmall : matchID.toNat < 2147483648)
    (e : Exception) : stoi (decimal matchID.toNat) ≠ .error e := by
  rw [stoi_decimal, if_neg (by omega)]
  intro h
  cases h

/-- So a reply with an ID that is not pending is ignored, -/
theorem reply_unknown {s : MatchmakingServer} {matchID : UInt32} {now : Nat → Micros}
    {job : RawPacketJob} (hcontent : job.content = decimal matchID.toNat)
    (hsmall : matchID.toNat < 2147483648) (hreply : IsReply job) (hnot : matchID ∉ s.pendingIDs) :
    s.step (.handle now job) = .ok (s, []) := by
  have hnone : ∀ c ∈ s.pendingMatchCreations, named job.content c = false := by
    intro c hc
    rw [← Bool.not_eq_true, hcontent, named_decimal_iff hsmall]
    intro heq
    exact hnot (heq ▸ List.mem_map_of_mem hc)
  rcases reply_ignored s now hreply hnone with h | ⟨e, -, he⟩
  · exact h
  · rw [hcontent] at he
    exact absurd he (stoi_decimal_ne_error hsmall e)

/-- and one that is pending is found: there the list splits. -/
theorem searchLoop_pending {s : MatchmakingServer} {matchID : UInt32}
    (hsmall : matchID.toNat < 2147483648) (hmem : matchID ∈ s.pendingIDs) :
    ∃ before c after,
      searchLoop (decimal matchID.toNat) s.pendingMatchCreations = .ok (some (before, c, after)) ∧
        s.pendingMatchCreations = before ++ c :: after ∧ c.matchData.matchID = matchID := by
  obtain ⟨c, hc, heq⟩ := List.mem_map.1 hmem
  cases hloop : searchLoop (decimal matchID.toNat) s.pendingMatchCreations with
  | error e => exact absurd (searchLoop_error_iff.1 hloop).2 (stoi_decimal_ne_error hsmall e)
  | ok r =>
    obtain ⟨-, hnone⟩ | ⟨before, c', after, rfl, hcs, hc', -⟩ := searchLoop_ok hloop
    · have hno := hnone c hc
      rw [(named_decimal_iff hsmall c).2 heq] at hno
      cases hno
    · exact ⟨before, c', after, rfl, hcs, (named_decimal_iff hsmall c').1 hc'⟩

/-- Below `2 ^ 31` a reply does what it is for. -/
theorem replyAnswered_of_lt {s : MatchmakingServer} {matchID : UInt32} {now : Nat → Micros}
    {job : RawPacketJob} (hcontent : job.content = decimal matchID.toNat)
    (hids : s.pendingIDs.Nodup) (hsmall : matchID.toNat < 2147483648) :
    s.ReplyAnswered matchID now job := by
  refine ⟨fun htype => ⟨?_, reply_unknown hcontent hsmall (.inl htype)⟩,
    fun htype => ⟨?_, reply_unknown hcontent hsmall (.inr htype)⟩⟩
  · rintro b hb hbid
    have hmem : matchID ∈ s.pendingIDs := List.mem_map.2 ⟨b, hb, hbid⟩
    obtain ⟨before, c, after, hloop, hcs, hcid⟩ := searchLoop_pending hsmall hmem
    rw [← hcontent] at hloop
    rw [pendingIDs, hcs] at hids
    obtain ⟨hfilter, hother⟩ := filter_matchID_ne hids
    rw [hcid] at hfilter hother
    obtain rfl : b = c := by
      by_contra hne
      refine hother b ?_ hbid
      rw [hcs, List.mem_append, List.mem_cons] at hb
      rw [List.mem_append]
      rcases hb with hb | hb | hb
      · exact .inl hb
      · exact absurd hb hne
      · exact .inr hb
    refine ⟨⟨sessionPlayers b.matchData now b.matchData.players⟩,
      b.matchData.players.map (matchFoundDatagram b.matchData.matchID), ?_, ?_⟩
    · exact hbid ▸ sessionOf_sessionPlayers b.matchData now
    · simp only [step, dispatch, htype, subcribeActionHandlers, matchUniqueHandler, hloop,
        createMatchSession]
      rw [hcs, hfilter]
  · intro hmem
    obtain ⟨before, c, after, hloop, hcs, hcid⟩ := searchLoop_pending hsmall hmem
    rw [← hcontent] at hloop
    rw [pendingIDs, hcs] at hids
    obtain ⟨-, hother⟩ := filter_matchID_ne hids
    rw [hcid] at hother
    refine ⟨before ++ rekey c (s.lastMatchID + 1) (now 0) :: after, ?_, ?_⟩
    · simp only [step, dispatch, htype, subcribeActionHandlers, matchUsedHandler, hloop]
    · have hsame : ∀ l : List PendingMatchCreation, (∀ b ∈ l, b ∈ before ++ after) →
          List.Forall₂ (fun c c' => if c.matchData.matchID = matchID
            then Rekeyed (s.lastMatchID + 1) c c' else c' = c) l l := by
        intro l hl
        refine List.forall₂_same.2 fun b hb => ?_
        rw [if_neg (hother b (hl b hb))]
      rw [hcs]
      refine List.rel_append (hsame before fun b hb => List.mem_append_left _ hb)
        (.cons ?_ (hsame after fun b hb => List.mem_append_right _ hb))
      rw [if_pos hcid]
      exact ⟨rfl, rfl, rfl⟩

/-- From `2 ^ 31` on a reply throws as soon as a creation is pending. -/
theorem not_replyAnswered {s : MatchmakingServer} {matchID : UInt32} {now : Nat → Micros}
    {job : RawPacketJob} (hreply : IsReply job) (hcontent : job.content = decimal matchID.toNat)
    (hbig : 2147483648 ≤ matchID.toNat) (hcs : s.pendingMatchCreations ≠ []) :
    s.step (.handle now job) = .error .outOfRange ∧ ¬ s.ReplyAnswered matchID now job := by
  have hthrow : s.step (.handle now job) = .error .outOfRange := by
    refine reply_error hreply hcs ?_
    rw [hcontent, stoi_decimal, if_pos (by omega)]
  refine ⟨hthrow, ?_⟩
  intro hanswered
  by_cases hmem : matchID ∈ s.pendingIDs
  · rcases hreply with htype | htype
    · obtain ⟨c, hc, heq⟩ := List.mem_map.1 hmem
      obtain ⟨_, _, -, h⟩ := (hanswered.1 htype).found c hc heq
      rw [hthrow] at h
      cases h
    · obtain ⟨_, h, -⟩ := (hanswered.2 htype).found hmem
      rw [hthrow] at h
      cases h
  · have h : s.step (.handle now job) = .ok (s, []) := by
      rcases hreply with htype | htype
      · exact (hanswered.1 htype).unknown hmem
      · exact (hanswered.2 htype).unknown hmem
    rw [hthrow] at h
    cases h

/-- With no creation pending, a reply is ignored, which is what it is for. -/
theorem replyAnswered_of_nil {s : MatchmakingServer} {matchID : UInt32} {now : Nat → Micros}
    {job : RawPacketJob} (hreply : IsReply job) (hnil : s.pendingMatchCreations = []) :
    s.ReplyAnswered matchID now job := by
  have hnot : matchID ∉ s.pendingIDs := by simp [pendingIDs, hnil]
  have hstep : s.step (.handle now job) = .ok (s, []) := by
    rcases reply_ignored s now hreply (by simp [hnil]) with h | ⟨e, h, -⟩
    · exact h
    · exact absurd hnil (stoi_error_of_reply hreply h).1
  refine ⟨fun _ => ⟨?_, fun _ => hstep⟩, fun _ => ⟨?_, fun _ => hstep⟩⟩
  · intro c hc
    simp [hnil] at hc
  · intro hmem
    exact absurd hmem hnot

/-- **A reply does what it is for unless its ID is no `int`** and a creation is
pending, whichever that is. -/
theorem replyAnswered_iff {s : MatchmakingServer} {matchID : UInt32} {now : Nat → Micros}
    {job : RawPacketJob} (hreply : IsReply job) (hcontent : job.content = decimal matchID.toNat)
    (hids : s.pendingIDs.Nodup) :
    s.ReplyAnswered matchID now job ↔
      matchID.toNat < 2147483648 ∨ s.pendingMatchCreations = [] := by
  constructor
  · intro hanswered
    by_contra hnot
    rw [not_or, not_lt] at hnot
    exact (not_replyAnswered hreply hcontent hnot.1 hnot.2).2 hanswered
  · rintro (hsmall | hnil)
    · exact replyAnswered_of_lt hcontent hids hsmall
    · exact replyAnswered_of_nil hreply hnil

/-- The match of two players, with this ID. -/
def creationOf (matchID : UInt32) : PendingMatchCreation :=
  let matchData : StartMatchData := ⟨matchID, .normal, 2,
    [{ ip := ⟨10, 0, 0, 1⟩, port := 5000 }, { ip := ⟨10, 0, 0, 2⟩, port := 5000, playerID := 1 }]⟩
  { matchData := matchData, serialized := serializeMatch matchData, timer := ⟨0⟩ }

/-- Among the creations 6 and 7, the game server confirms 7. -/
theorem replyAnswered_seven :
    ({ pendingMatchCreations := [creationOf 6, creationOf 7] } : MatchmakingServer).ReplyAnswered 7
      (fun _ => 0) (jobOf .matchUnique (decimal 7) (gameServerIP, gameServerPort)) :=
  (replyAnswered_iff (.inl rfl) rfl (by decide)).2 (.inl (by decide))

/-- The game server confirms the match with the ID `2 ^ 31`, which is pending: the
handler throws. -/
theorem reply_outOfRange : ∃ (s : MatchmakingServer) (matchID : UInt32) (job : RawPacketJob),
    s.pendingIDs.Nodup ∧ matchID ∈ s.pendingIDs ∧ IsReply job ∧
      job.content = decimal matchID.toNat ∧
      s.step (.handle (fun _ => 0) job) = .error .outOfRange ∧
      ¬ s.ReplyAnswered matchID (fun _ => 0) job := by
  let s : MatchmakingServer := { pendingMatchCreations := [creationOf 2147483648] }
  let job := jobOf .matchUnique (decimal 2147483648) (gameServerIP, gameServerPort)
  exact ⟨s, 2147483648, job, by decide, by decide, .inl rfl, rfl,
    not_replyAnswered (.inl rfl) rfl (by decide) (by simp [s])⟩

/-! ## One match for each ID -/

/-- A step gives an ID up: by another ID, back to a queue, or confirmed. -/
def GivenUp (t : Transition MatchmakingServer Step (List Datagram)) (matchID : UInt32) : Prop :=
  matchID ∈ t.pre.pendingIDs ∧ matchID ∉ t.post.pendingIDs

/-- If the content is a number at all, it is read as this ID. -/
def ReadsAs (content : Bytes) (matchID : UInt32) : Prop :=
  ∀ id, stoi content = .ok id → UInt32.ofInt id = matchID

theorem readsAs_decimal (matchID : UInt32) : ReadsAs (decimal matchID.toNat) matchID := by
  intro id hid
  rw [stoi_decimal] at hid
  by_cases hbig : 2147483647 < matchID.toNat
  · rw [if_pos hbig] at hid
    cases hid
  · rw [if_neg hbig] at hid
    cases hid
    rw [← UInt32.toNat_inj, UInt32.ofInt, UInt32.toNat_ofNat_of_lt' (by
      simp only [UInt32.size]
      omega)]
    omega

/-- An ID that is pending was pending before, or it was issued on the way. -/
theorem mem_pendingIDs_run {s s' : MatchmakingServer}
    {h : List (Transition MatchmakingServer Step (List Datagram))} (hr : machine.Run s h s')
    {matchID : UInt32} (hmem : matchID ∈ s'.pendingIDs) :
    matchID ∈ s.pendingIDs ∨ matchID ∈ (issued h).map (·.matchID) := by
  induction hr with
  | nil => exact .inl hmem
  | @snoc h r r' l out _ hstep ih =>
    obtain ⟨c, hc, heq⟩ := List.mem_map.1 hmem
    have hdata : c.matchData ∈ r'.pendingData := Multiset.mem_coe.2 (List.mem_map_of_mem hc)
    have hbefore := Multiset.mem_of_le (pendingData_step hstep) (Multiset.mem_add.2 (.inl hdata))
    simp only [issued, List.flatMap_append, List.flatMap_singleton, List.map_append,
      List.mem_append] at ih ⊢
    rcases Multiset.mem_add.1 hbefore with hold | hnew
    · obtain ⟨b, hb, hbc⟩ := List.mem_map.1 (Multiset.mem_coe.1 hold)
      have hold' : matchID ∈ r.pendingIDs := by
        rw [← heq, ← hbc]
        exact List.mem_map_of_mem hb
      rcases ih hold' with h | h
      · exact .inl h
      · exact .inr (.inl h)
    · exact .inr (.inr (heq ▸ List.mem_map_of_mem (Multiset.mem_coe.1 hnew)))

/-- The IDs of what is pending are among those issued. -/
theorem Book.mem_issuedIDs {h : List (Transition MatchmakingServer Step (List Datagram))}
    {s : MatchmakingServer} (hb : Book h s) {matchID : UInt32} (hmem : matchID ∈ s.pendingIDs) :
    matchID ∈ (issued h).map (·.matchID) := by
  obtain ⟨c, hc, rfl⟩ := List.mem_map.1 hmem
  exact List.mem_map_of_mem (f := StartMatchData.matchID) (hb.mem_issued hc)

/-- The IDs of what is pending are all different. -/
theorem Book.pendingIDs_nodup {h : List (Transition MatchmakingServer Step (List Datagram))}
    {s : MatchmakingServer} (hb : Book h s) (hcount : (issued h).length < 4294967296) :
    s.pendingIDs.Nodup := by
  have hle : s.pendingData ≤ issued h := (Multiset.le_add_right _ _).trans hb.held
  have hmap := Multiset.map_le_map (f := fun data : StartMatchData => data.matchID) hle
  have hnodup := Multiset.nodup_of_le hmap (Multiset.coe_nodup.2 (hb.ids_nodup hcount))
  simpa [pendingData, pendingIDs, Function.comp_def] using hnodup

/-- **An ID that was given up never comes back.** -/
theorem not_mem_of_givenUp {h₁ h₂ : List (Transition MatchmakingServer Step (List Datagram))}
    {t : Transition MatchmakingServer Step (List Datagram)} {s : MatchmakingServer}
    (hr : Run (h₁ ++ t :: h₂) s) (hcount : (issued (h₁ ++ t :: h₂)).length < 4294967296)
    {matchID : UInt32} (ht : GivenUp t matchID) :
    matchID ∉ (issued (t :: h₂)).map (·.matchID) ∧ matchID ∉ s.pendingIDs := by
  have hnodup := (book_of_run hr).ids_nodup hcount
  obtain ⟨hr₁, -, hr₂⟩ := hr.mem_split
  have hold := (book_of_run hr₁).mem_issuedIDs ht.1
  have hsplit : issued (h₁ ++ t :: h₂) = issued h₁ ++ issued (t :: h₂) := List.flatMap_append
  rw [hsplit, List.map_append, List.nodup_append] at hnodup
  have hnew : matchID ∉ (issued (t :: h₂)).map (·.matchID) := fun hmem =>
    hnodup.2.2 _ hold _ hmem rfl
  refine ⟨hnew, ?_⟩
  intro hmem
  rcases mem_pendingIDs_run hr₂ hmem with h | h
  · exact ht.2 h
  · refine hnew ?_
    simp only [issued, List.flatMap_cons, List.map_append, List.mem_append] at h ⊢
    exact .inr h

/-- **An ID belongs to one match.**  In a run with fewer than `2 ^ 32` IDs:
* the pending IDs are all different, and none is above the counter, which stands at
  the number of IDs issued;
* an ID that was given up is not issued again;
* the sessions are created for the confirmed matches, and no two of these have one
  ID;
* a reply with an ID that was given up changes nothing. -/
theorem ids_identify_one_match {h : List (Transition MatchmakingServer Step (List Datagram))}
    {s : MatchmakingServer} (hr : Run h s) (hcount : (issued h).length < 4294967296) :
    (s.pendingIDs.Nodup ∧ (∀ matchID ∈ s.pendingIDs, matchID ≤ s.lastMatchID) ∧
        s.lastMatchID.toNat = (issued h).length) ∧
      (∀ h₁ t h₂, h = h₁ ++ t :: h₂ → ∀ matchID, GivenUp t matchID →
        matchID ∉ (issued (t :: h₂)).map (·.matchID)) ∧
      (((confirmed h).map (·.matchID)).Nodup ∧ ∀ t ∈ h, ∃ kept,
        kept.Sublist (t.pre.pendingSessions.map (·.identity)) ∧
        t.post.pendingSessions.map (·.identity)
          = kept ++ (confirmedBy t.pre t.label).map sessionIdentity) ∧
      ∀ t ∈ h, ∀ matchID, GivenUp t matchID → ∀ now job, IsReply job →
        ReadsAs job.content matchID →
        s.step (.handle now job) = .ok (s, []) ∨
          ∃ e, s.step (.handle now job) = .error e ∧ stoi job.content = .error e := by
  have hb := book_of_run hr
  have hlast : s.lastMatchID.toNat = (issued h).length := by
    rw [hb.lastMatchID, UInt32.toNat_ofNat_of_lt' (by simpa only [UInt32.size] using hcount)]
  refine ⟨⟨hb.pendingIDs_nodup hcount, ?_, hlast⟩, ?_, ⟨hb.confirmedIDs_nodup hcount, ?_⟩, ?_⟩
  · intro matchID hmem
    obtain ⟨data, hdata, rfl⟩ := List.mem_map.1 (hb.mem_issuedIDs hmem)
    rw [UInt32.le_iff_toNat_le, hlast]
    exact hb.matchID_le hcount hdata
  · rintro h₁ t h₂ rfl matchID ht
    exact (not_mem_of_givenUp hr hcount ht).1
  · intro t ht
    exact sessions_step (hr.step_of_mem ht)
  · intro t ht matchID hgiven now job hreply hreads
    obtain ⟨h₁, h₂, rfl⟩ := List.append_of_mem ht
    have hnot := (not_mem_of_givenUp hr hcount hgiven).2
    refine reply_ignored _ _ hreply ?_
    intro c hc
    by_contra hnamed
    rw [Bool.not_eq_false] at hnamed
    obtain ⟨id, hid, hcid⟩ := ok_of_named hnamed
    refine hnot (List.mem_map.2 ⟨c, hc, ?_⟩)
    rw [hcid, hreads id hid]

/-- Two players are paired, the game server asks for another ID and confirms that
one: the IDs 1 and 2 are given up one after the other, and both replies, sent
again, change nothing. -/
theorem ids_identify_one_match_twice : ∃ h s, Run h s ∧ (confirmed h).map (·.matchID) = [2] ∧
    (∀ now, s.step (.handle now (jobOf .matchUsed (decimal 1) (gameServerIP, gameServerPort)))
      = .ok (s, [])) ∧
    ∀ now, s.step (.handle now (jobOf .matchUnique (decimal 2) (gameServerIP, gameServerPort)))
      = .ok (s, []) := by
  let reply (type : PacketType) (m : Nat) : Step :=
    .handle (fun _ => 0) (jobOf type (decimal m) (gameServerIP, gameServerPort))
  obtain ⟨h, s, hr, hp⟩ := Machine.exists_run_of_exec (M := machine) (s := initial)
    (l := twoPaired ++ [reply .matchUsed 1, reply .matchUnique 2])
    (P := fun h _ => (issued h).length < 4294967296 ∧ (confirmed h).map (·.matchID) = [2] ∧
      (∃ t ∈ h, (1 : UInt32) ∈ t.pre.pendingIDs ∧ (1 : UInt32) ∉ t.post.pendingIDs) ∧
      ∃ t ∈ h, (2 : UInt32) ∈ t.pre.pendingIDs ∧ (2 : UInt32) ∉ t.post.pendingIDs)
    (by decide +kernel)
  obtain ⟨hcount, hconf, ⟨t₁, ht₁, hgiven₁⟩, t₂, ht₂, hgiven₂⟩ := hp
  have hagain := (ids_identify_one_match hr hcount).2.2.2
  have hread : ∀ m : UInt32, m.toNat < 2147483648 → ∀ e, stoi (decimal m.toNat) ≠ .error e := by
    intro m hm e he
    rw [stoi_decimal, if_neg (by omega)] at he
    cases he
  refine ⟨h, s, hr, hconf, ?_, ?_⟩
  · intro now
    rcases hagain t₁ ht₁ 1 hgiven₁ now (jobOf .matchUsed (decimal 1) _) (.inr rfl)
      (readsAs_decimal 1) with hs | ⟨e, -, he⟩
    · exact hs
    · exact absurd he (hread 1 (by decide) e)
  · intro now
    rcases hagain t₂ ht₂ 2 hgiven₂ now (jobOf .matchUnique (decimal 2) _) (.inl rfl)
      (readsAs_decimal 2) with hs | ⟨e, -, he⟩
    · exact hs
    · exact absurd he (hread 2 (by decide) e)

end MatchmakingServer

end ServiceServer
