import SocksProxy.Served
import SocksProxy.Lemmas.Files

/-!
# Frames and ownership

What stays in order around a session while something is done for it. `Own.frame` rebuilds the ownership invariant from a frame
and from what is known of the one session; everything else in this module says when it applies.
-/

namespace SocksProxy

namespace Item

variable {item item' : Item FdHandler Nat}

/-- The descriptor of a slot does not depend on its interest. -/
theorem fd_of_bare (h : item.bare = item'.bare) : item.fd = item'.fd := by
  have := congrArg Item.fd h
  exact this

/-- The handler of a slot does not depend on its interest. -/
theorem handler_of_bare (h : item.bare = item'.bare) : item.handler = item'.handler := by
  have := congrArg Item.handler h
  exact this

/-- The attachment of a slot does not depend on its interest. -/
theorem data_of_bare (h : item.bare = item'.bare) : item.data = item'.data := by
  have := congrArg Item.data h
  exact this

/-- Whose a slot is does not depend on its interest. -/
theorem of_bare {sid : Nat} (h : item.bare = item'.bare) : item.Of sid ↔ item'.Of sid := by
  simp [Of, handler_of_bare h, data_of_bare h]

end Item

namespace Server

/-- The shared part decides these fields. -/
theorem shared_eq {s s' : Server} (h : s'.shared = s.shared) :
    s'.managements = s.managements ∧ s'.managedUsers = s.managedUsers ∧ s'.serverFd = s.serverFd ∧
    s'.managementFd = s.managementFd ∧ s'.stoppedAccepting = s.stoppedAccepting ∧ s'.phase = s.phase ∧
    s'.faults = s.faults ∧ s'.selector.resolutionJobs = s.selector.resolutionJobs ∧
    s'.selector.fdSize = s.selector.fdSize :=
  ⟨congrArg Shared.managements h, congrArg Shared.managedUsers h, congrArg Shared.serverFd h, congrArg Shared.managementFd h,
    congrArg Shared.stoppedAccepting h, congrArg Shared.phase h, congrArg Shared.faults h, congrArg Shared.queue h,
    congrArg Shared.fdSize h⟩

/-- The resources decide these fields. -/
theorem resources_eq {s s' : Server} (h : s'.resources = s.resources) :
    s'.files = s.files ∧ s'.nextFile = s.nextFile ∧ s'.jobs = s.jobs ∧ s'.threads = s.threads ∧
    s'.nextObject = s.nextObject :=
  ⟨congrArg Resources.files h, congrArg Resources.nextFile h, congrArg Resources.jobs h, congrArg Resources.threads h,
    congrArg Resources.nextObject h⟩

end Server

namespace Registered

/-- A registered client slot belongs to its session. -/
theorem of_client {s : Server} {sid : Nat} {fd : Int} (h : s.Registered fd .clientHandler (some sid)) :
    ∃ item, s.selector.slot fd = some item ∧ item.Of sid := by
  obtain ⟨item, hi, hh, hd⟩ := h
  exact ⟨item, hi, .inl hh, hd⟩

/-- A registered target slot belongs to its session. -/
theorem of_target {s : Server} {sid : Nat} {fd : Int} (h : s.Registered fd .targetHandler (some sid)) :
    ∃ item, s.selector.slot fd = some item ∧ item.Of sid := by
  obtain ⟨item, hi, hh, hd⟩ := h
  exact ⟨item, hi, .inr hh, hd⟩

/-- A slot that keeps all but its interest keeps its registration. -/
theorem of_bare {s s' : Server} {fd : Int} {handler : FdHandler} {data : Option Nat}
    (hb : (s'.selector.slot fd).map (·.bare) = (s.selector.slot fd).map (·.bare)) (h : s.Registered fd handler data) :
    s'.Registered fd handler data := by
  obtain ⟨item, hi, hh, hd⟩ := h
  rw [hi, Option.map_some, Option.map_eq_some_iff] at hb
  obtain ⟨item', hi', hb⟩ := hb
  exact ⟨item', hi', (Item.handler_of_bare hb).trans hh, (Item.data_of_bare hb).trans hd⟩

end Registered

/-- A slot that keeps all but its interest is owned as before, when the heap is. -/
theorem SlotOwned.congr {s s' : Server} {fd : Int} {item item' : Item FdHandler Nat} (hb : item'.bare = item.bare)
    (hs : ∀ sid, item.Of sid → ∀ state, s.sessions sid = some state →
      ∃ state', s'.sessions sid = some state' ∧ state'.clientFd = state.clientFd ∧ state'.targetFd = state.targetFd)
    (hm : ∀ mid, s.managements mid ≠ none → s'.managements mid ≠ none) (hl : s'.serverFd = s.serverFd)
    (hl' : s'.managementFd = s.managementFd) (h : s.SlotOwned fd item) : s'.SlotOwned fd item' := by
  have hh := Item.handler_of_bare hb
  have hd := Item.data_of_bare hb
  unfold Server.SlotOwned at h ⊢
  rw [hh, hd]
  split at h
  · rename_i sid hh' hd'
    obtain ⟨state, hst, hfd⟩ := h
    obtain ⟨state', hst', hc, _⟩ := hs sid ⟨.inl hh', hd'⟩ state hst
    exact ⟨state', hst', hc.trans hfd⟩
  · rename_i sid hh' hd'
    obtain ⟨state, hst, hfd⟩ := h
    obtain ⟨state', hst', _, ht⟩ := hs sid ⟨.inr hh', hd'⟩ state hst
    exact ⟨state', hst', ht.trans hfd⟩
  · rename_i mid _ _
    obtain ⟨state, hst⟩ := h
    exact Option.ne_none_iff_exists'.mp (hm mid (by simp [hst]))
  · exact h.trans hl.symm
  · exact h.trans hl'.symm
  · exact h

/-- What is known of one session when it is in order: its slots are its own, it has them, and what is open is registered. -/
structure Settled (sid : Nat) (s : Server) : Prop where
  slots : ∀ fd item, s.selector.slot fd = some item → item.Of sid → item.fd = fd ∧ s.SlotOwned fd item
  client : ∀ state, s.sessions sid = some state → s.Registered state.clientFd .clientHandler (some sid)
  target : ∀ state, s.sessions sid = some state → state.targetFd ≠ -1 →
    s.Registered state.targetFd .targetHandler (some sid)
  opened : ∀ fd, (s.files fd).isSome = (s.selector.slot fd).isSome
  born : s.sessions sid ≠ none → sid < s.nextObject

namespace Own

variable {s s' : Server} {sid : Nat} {acts : List Act}

/-- A session's client descriptor has a slot of the session. -/
theorem client_slot (own : Own s) {state : ClientState} (h : s.sessions sid = some state) :
    ∃ item, s.selector.slot state.clientFd = some item ∧ item.Of sid :=
  Registered.of_client (own.client sid state h)

/-- A slot that belongs to a session is that of one of its two descriptors. -/
theorem fd_of_slot (own : Own s) {fd : Int} {item : Item FdHandler Nat} (h : s.selector.slot fd = some item)
    (ho : item.Of sid) : ∃ state, s.sessions sid = some state ∧
      (item.handler = some .clientHandler ∧ state.clientFd = fd ∨ item.handler = some .targetHandler ∧ state.targetFd = fd) := by
  have hown := own.owned fd item h
  obtain ⟨hh, hd⟩ := ho
  unfold Server.SlotOwned at hown
  rcases hh with hh | hh <;> rw [hh, hd] at hown
  · obtain ⟨state, hs, hfd⟩ := hown
    exact ⟨state, hs, .inl ⟨hh, hfd⟩⟩
  · obtain ⟨state, hs, hfd⟩ := hown
    exact ⟨state, hs, .inr ⟨hh, hfd⟩⟩

/-- The descriptors of a session are in order. -/
theorem held (own : Own s) {v : View} (h : s.life sid = .live v) : v.Held := by
  obtain ⟨hs, hv⟩ := Server.sessions_of_life h
  obtain ⟨item, hi, hh, hd⟩ := own.client sid _ hs
  have hci : v.clientInterest = some item.interest := by
    rw [← hv]
    simp [Server.viewOf, Server.interest, hi]
  refine ⟨fun he => ?_, by rw [hci]; rfl, fun ht => ?_⟩
  · by_cases ht : v.state.targetFd = -1
    · rw [he, ht] at hi
      simp at hi
    · obtain ⟨item', hi', hh', _⟩ := own.target sid _ hs ht
      rw [he, hi'] at hi
      cases hi
      rw [hh'] at hh
      cases hh
  · obtain ⟨item', hi', _⟩ := own.target sid _ hs ht
    rw [← hv]
    simp [Server.viewOf, Server.interest, hi']

/-- The client's descriptor of a session is not -1. -/
theorem clientFd_ne (own : Own s) {state : ClientState} (h : s.sessions sid = some state) : state.clientFd ≠ -1 := by
  obtain ⟨item, hi, _⟩ := own.client_slot h
  intro he
  rw [he] at hi
  simp at hi

/-- The ownership invariant around one session. -/
theorem frame (own : Own s) (fr : Frame sid s s' acts) (st : Settled sid s') : Own s' := by
  obtain ⟨hm, _, hl, hl', _, _, hf, _, hz⟩ := Server.shared_eq fr.shared
  -- a slot of `s'` is one of the session's, or was there before
  have hslot : ∀ fd item, s'.selector.slot fd = some item →
      item.Of sid ∨ ¬item.Of sid ∧ s.selector.slot fd = some item := by
    intro fd item h
    by_cases ho : item.Of sid
    · exact .inl ho
    · exact .inr ⟨ho, fr.foreign fd item h ho⟩
  have hkeep : ∀ fd handler data, (∀ item : Item FdHandler Nat, item.handler = some handler → item.data = data → ¬item.Of sid) →
      s.Registered fd handler data → s'.Registered fd handler data := by
    rintro fd handler data hno ⟨item, hi, hh, hd⟩
    exact ⟨item, (fr.kept fd item hi (hno item hh hd)).1, hh, hd⟩
  have hother : ∀ sid', sid' ≠ sid → ∀ item : Item FdHandler Nat, item.data = some sid' → ¬item.Of sid := by
    rintro sid' hne item hd ⟨_, hd'⟩
    rw [hd] at hd'
    exact hne (Option.some.inj hd')
  refine {
    selector := fr.selector own.selector
    size := hz.trans own.size
    indexed := fun fd item h => ?_
    owned := fun fd item h => ?_
    client := fun sid' state h => ?_
    target := fun sid' state h ht => ?_
    management := fun mid fd fd' h h' => ?_
    opened := st.opened
    ledger := fr.ledger own.ledger
    fresh := fun o ho => ?_
    faults := fun f h => own.faults f (hf ▸ h) }
  · rcases hslot fd item h with ho | ⟨_, h'⟩
    · exact (st.slots fd item h ho).1
    · exact own.indexed fd item h'
  · rcases hslot fd item h with ho | ⟨ho, h'⟩
    · exact (st.slots fd item h ho).2
    · refine SlotOwned.congr rfl (fun sid' ho' state hs => ⟨state, ?_, rfl, rfl⟩) (fun mid hmid => hm ▸ hmid) hl hl'
        (own.owned fd item h')
      have hne : sid' ≠ sid := by
        rintro rfl
        exact ho ho'
      rw [fr.sessions sid' hne, hs]
  · by_cases he : sid' = sid
    · subst he
      exact st.client state h
    · rw [fr.sessions sid' he] at h
      exact hkeep _ _ _ (fun item _ hd => hother sid' he item hd) (own.client sid' state h)
  · by_cases he : sid' = sid
    · subst he
      exact st.target state h ht
    · rw [fr.sessions sid' he] at h
      exact hkeep _ _ _ (fun item _ hd => hother sid' he item hd) (own.target sid' state h ht)
  · have hback : ∀ fd, s'.Registered fd .managementClientHandler (some mid) →
        s.Registered fd .managementClientHandler (some mid) := by
      rintro fd ⟨item, hi, hh, hd⟩
      have hno : ¬item.Of sid := by
        rintro ⟨hh' | hh', _⟩ <;> rw [hh] at hh' <;> cases hh'
      exact ⟨item, fr.foreign fd item hi hno, hh, hd⟩
    exact own.management mid fd fd' (hback fd h) (hback fd' h')
  · have ho' : s.nextObject ≤ o := Nat.le_trans fr.nextObject ho
    refine ⟨?_, by rw [hm]; exact (own.fresh o ho').2⟩
    by_cases he : o = sid
    · subst he
      by_contra hne
      have := st.born hne
      omega
    · rw [fr.sessions o he]
      exact (own.fresh o ho').1

end Own

namespace Frame

variable {sid : Nat} {s s' s'' : Server} {acts acts' : List Act}

/-- Nothing changed. -/
theorem refl (sid : Nat) (s : Server) : Frame sid s s [] where
  sessions := fun _ _ => rfl
  kept := fun _ _ h _ => ⟨h, rfl⟩
  foreign := fun _ _ h _ => h
  selector := id
  shared := rfl
  nextObject := Nat.le_refl _
  errno := id
  jobs := fun _ _ h => ⟨rfl, h⟩
  threads := fun _ => .inl rfl
  results := fun _ => .inr rfl
  trace := ⟨[], by simp, rfl, fun _ _ => rfl, rfl⟩
  ledger := id

/-- Frames compose. -/
theorem trans (h : Frame sid s s' acts) (h' : Frame sid s' s'' acts') : Frame sid s s'' (acts ++ acts') := by
  obtain ⟨obs, ht, ha, hn, hc⟩ := h.trace
  obtain ⟨obs', ht', ha', hn', hc'⟩ := h'.trace
  exact {
    sessions := fun sid' hne => (h'.sessions sid' hne).trans (h.sessions sid' hne)
    kept := fun fd item hi ho => by
      obtain ⟨h1, h2⟩ := h.kept fd item hi ho
      obtain ⟨h3, h4⟩ := h'.kept fd item h1 ho
      exact ⟨h3, h4.trans h2⟩
    foreign := fun fd item hi ho => h.foreign fd item (h'.foreign fd item hi ho) ho
    selector := fun hc => h'.selector (h.selector hc)
    shared := h'.shared.trans h.shared
    nextObject := Nat.le_trans h.nextObject h'.nextObject
    errno := fun he => h'.errno (h.errno he)
    jobs := fun job hlt hs => by
      obtain ⟨h1, h2⟩ := h.jobs job hlt hs
      obtain ⟨h3, h4⟩ := h'.jobs job (Nat.lt_of_lt_of_le hlt h.nextObject) h2
      exact ⟨h3.trans h1, h4⟩
    threads := fun job => by
      rcases h'.threads job with h1 | ⟨h1, h2⟩
      · rw [h1]
        exact h.threads job
      · exact .inr ⟨Nat.le_trans h.nextObject h1, h2⟩
    results := fun job => by
      rcases h'.results job with h1 | h1
      · exact .inl h1
      · rw [h1]
        exact h.results job
    trace := by
      refine ⟨obs ++ obs', by rw [ht', ht, List.append_assoc], by rw [Obs.acts_append, ha, ha'], fun sid' hne => ?_, ?_⟩
      · rw [Obs.acts_append, hn sid' hne, hn' sid' hne, List.append_nil]
      · rw [hc', hc, List.foldl_append]
    ledger := fun hl => h'.ledger (h.ledger hl) }

/-- The acts of the session itself. -/
theorem acts_self (h : Frame sid s s' acts) : s'.acts sid = s.acts sid ++ acts := by
  obtain ⟨obs, ht, ha, _⟩ := h.trace
  rw [Server.acts, ht, Obs.acts_append, ha]
  rfl

/-- The acts of another session. -/
theorem acts_other (h : Frame sid s s' acts) {sid' : Nat} (hne : sid' ≠ sid) : s'.acts sid' = s.acts sid' := by
  obtain ⟨obs, ht, _, hn, _⟩ := h.trace
  rw [Server.acts, ht, Obs.acts_append, hn sid' hne, List.append_nil]
  rfl

/-- A slot of another session keeps its interest and its file. -/
theorem view_other (own : Own s) (h : Frame sid s s' acts) {sid' : Nat} (hne : sid' ≠ sid) {state : ClientState}
    (hs : s.sessions sid' = some state) (hn : (s'.files (-1)).isSome = false) : s'.viewOf state = s.viewOf state := by
  have hno : ∀ item : Item FdHandler Nat, item.data = some sid' → ¬item.Of sid := by
    rintro item hd ⟨_, hd'⟩
    rw [hd] at hd'
    exact hne (Option.some.inj hd')
  obtain ⟨item, hi, _, hd⟩ := own.client sid' state hs
  have hc := (h.kept _ item hi (hno item hd)).1
  unfold Server.viewOf Server.interest Server.connect
  rw [hc, hi]
  by_cases ht : state.targetFd = -1
  · have h0 : s.files (-1) = none := by simpa using own.opened (-1)
    have h1 : s'.files (-1) = none := by simpa using hn
    rw [ht, h0, h1]
    simp only [FdSelector.slot_neg_one]
  · obtain ⟨item', hi', _, hd'⟩ := own.target sid' state hs ht
    obtain ⟨h1, h2⟩ := h.kept _ item' hi' (hno item' hd')
    rw [h1, hi', h2]

/-- The life of another session goes on as it was. -/
theorem life_other (own : Own s) (own' : Own s') (h : Frame sid s s' acts) {sid' : Nat} (hne : sid' ≠ sid)
    (hn : s'.nextObject = s.nextObject) : s'.life sid' = s.life sid' := by
  unfold Server.life
  rw [h.sessions sid' hne, hn]
  cases hs : s.sessions sid' with
  | none => rfl
  | some state =>
    simp only
    rw [h.view_other own hne hs (by rw [own'.opened]; simp)]

end Frame

/-! ## Custody -/

/-- A slot of a session has the session for its owner. -/
theorem Item.of_iff_owner {sid : Nat} {item : Item FdHandler Nat} :
    item.Of sid ↔ item.owner = (some .clientHandler, some sid) := by
  unfold Item.Of Item.owner
  constructor
  · rintro ⟨h | h, hd⟩ <;> simp [h, hd]
  · intro h
    obtain ⟨h1, h2⟩ := Prod.mk.inj h
    split at h1
    · exact ⟨.inr ‹_›, h2⟩
    · exact ⟨.inl h1, h2⟩

namespace Custody

variable {s s' s'' : Server}

/-- Nothing changed hands. -/
theorem refl (s : Server) : Custody s s := ⟨Nat.le_refl _, fun _ _ _ h => h, List.prefix_rfl⟩

/-- Custody through one change after another. -/
theorem trans (h : Custody s s') (h' : Custody s' s'') : Custody s s'' :=
  ⟨Nat.le_trans h.nextFile h'.nextFile, fun file owner hlt hh =>
    h.holds file owner hlt (h'.holds file owner (Nat.lt_of_lt_of_le hlt h.nextFile) hh), h.trace.trans h'.trace⟩

/-- Custody, when slots and files only go. -/
theorem of_sub (hn : s'.nextFile = s.nextFile)
    (files : ∀ fd f, s'.files fd = some f → ∃ f0, s.files fd = some f0 ∧ f0.serial = f.serial)
    (slots : ∀ fd item, s'.selector.slot fd = some item → s.selector.slot fd = some item) (ht : s.trace <+: s'.trace) :
    Custody s s' := by
  refine ⟨hn.ge, fun file owner _ ⟨fd, f, item, hf, hs, hi, ho⟩ => ?_, ht⟩
  obtain ⟨f0, hf0, hs0⟩ := files fd f hf
  exact ⟨fd, f0, item, hf0, hs0.trans hs, slots fd item hi, ho⟩

/-- A longer trace numbers its files further. -/
theorem nextFile_le (own : Own s) (own' : Own s') {obs : List Obs} (ht : s'.trace = s.trace ++ obs) :
    s.nextFile ≤ s'.nextFile := by
  by_contra hlt
  have h1 := own.ledger.opened s'.nextFile
  have h2 := own'.ledger.opened s'.nextFile
  rw [if_pos (by omega)] at h1
  rw [if_neg (Nat.lt_irrefl _), ht, Obs.openings, List.countP_append] at h2
  rw [Obs.openings] at h1
  omega

/-- A file that was there and is open now was open all along. -/
theorem open_before (own : Own s) (own' : Own s') {obs : List Obs} (ht : s'.trace = s.trace ++ obs) {fd : Int} {f : OpenFile}
    (hf : s'.files fd = some f) (hlt : f.serial < s.nextFile) : ∃ fd0 f0, s.files fd0 = some f0 ∧ f0.serial = f.serial := by
  by_contra hno
  have h1 := own.ledger.closedGone f.serial hlt fun fd0 f0 h0 he => hno ⟨fd0, f0, h0, he⟩
  have h2 := own'.ledger.closedOpen fd f hf
  rw [ht, Obs.closings, List.countP_append] at h2
  rw [Obs.closings] at h1
  omega

/-- Custody, when all slots but those of one owner stay as they are. -/
theorem of_owner (own : Own s) (own' : Own s') {obs : List Obs} (ht : s'.trace = s.trace ++ obs)
    {o : Option FdHandler × Option Nat}
    (kept : ∀ fd item, s.selector.slot fd = some item → item.owner ≠ o →
      s'.selector.slot fd = some item ∧ s'.files fd = s.files fd)
    (foreign : ∀ fd item, s'.selector.slot fd = some item → item.owner ≠ o → s.selector.slot fd = some item) :
    Custody s s' := by
  refine ⟨nextFile_le own own' ht, fun file owner hlt ⟨fd, f, item, hf, hs, hi, ho⟩ => ?_, ht ▸ List.prefix_append ..⟩
  subst hs
  by_cases hne : item.owner = o
  · -- an old file in the hands of the one owner that changed was in its hands before
    obtain ⟨fd0, f0, hf0, hs0⟩ := open_before own own' ht hf hlt
    have hopen := own.opened fd0
    rw [hf0] at hopen
    obtain ⟨item0, hi0⟩ := Option.isSome_iff_exists.mp hopen.symm
    refine ⟨fd0, f0, item0, hf0, hs0, hi0, ?_⟩
    by_contra hno
    obtain ⟨h1, h2⟩ := kept fd0 item0 hi0 fun he => hno (he.trans (hne.symm.trans ho))
    have := own'.ledger.distinct fd0 fd f0 f (h2.trans hf0) hf hs0
    subst this
    rw [hi] at h1
    cases h1
    exact hno ho
  · have h1 := foreign fd item hi hne
    exact ⟨fd, f, item, (kept fd item h1 hne).2.symm.trans hf, rfl, h1, ho⟩

end Custody

/-- No file comes into new hands around one session. -/
theorem Frame.custody {sid : Nat} {s s' : Server} {acts : List Act} (h : Frame sid s s' acts) (own : Own s) (own' : Own s') :
    Custody s s' := by
  obtain ⟨obs, ht, _⟩ := h.trace
  exact .of_owner own own' ht (o := (some .clientHandler, some sid))
    (fun fd item hi hne => h.kept fd item hi fun ho => hne (Item.of_iff_owner.mp ho))
    (fun fd item hi hne => h.foreign fd item hi fun ho => hne (Item.of_iff_owner.mp ho))

namespace Served

variable {sid : Nat} {s s' : Server} {v : View} {acts : List Act}

/-- A slot of a session that was served is that of one of its descriptors. -/
theorem fd_ne (own : Own s) (h : Served sid s s' v acts) {fd : Int} {item : Item FdHandler Nat}
    (hi : s'.selector.slot fd = some item) (ho : ¬item.Of sid) : fd ≠ v.state.clientFd ∧ fd ≠ v.state.targetFd := by
  obtain ⟨state, hs, hc, ht, _⟩ := h.session
  have hof : ∀ handler, handler = .clientHandler ∨ handler = .targetHandler →
      s.Registered fd handler (some sid) → False := by
    intro handler hh hr
    obtain ⟨item', hi', hh', hd'⟩ := Registered.of_bare (h.bare fd) hr
    rw [hi] at hi'
    cases hi'
    rcases hh with rfl | rfl
    · exact ho ⟨.inl hh', hd'⟩
    · exact ho ⟨.inr hh', hd'⟩
  refine ⟨fun he => ?_, fun he => ?_⟩
  · rw [hc] at he
    exact hof .clientHandler (.inl rfl) (he ▸ own.client sid state hs)
  · rw [ht] at he
    by_cases hne : state.targetFd = -1
    · rw [he, hne] at hi
      simp at hi
    · exact hof .targetHandler (.inr rfl) (he ▸ own.target sid state hs hne)

/-- Service of a session is a frame. -/
theorem frame (own : Own s) (h : Served sid s s' v acts) : Frame sid s s' acts := by
  obtain ⟨hfi, hnf, hj, hth, hno⟩ := Server.resources_eq h.resources
  obtain ⟨state, hs, hc, _, hjob⟩ := h.session
  exact {
    sessions := fun sid' hne => by rw [h.sessions, Function.update_of_ne hne]
    kept := fun fd item hi ho => by
      refine ⟨?_, congrFun hfi fd⟩
      have hb := h.bare fd
      rw [hi, Option.map_some, Option.map_eq_some_iff] at hb
      obtain ⟨item', hi', hb⟩ := hb
      obtain ⟨h1, h2⟩ := h.fd_ne own hi' ((Item.of_bare hb).not.mpr ho)
      rw [h.others fd h1 h2, hi]
    foreign := fun fd item hi ho => by
      obtain ⟨h1, h2⟩ := h.fd_ne own hi ho
      rw [← h.others fd h1 h2, hi]
    selector := h.selector
    shared := h.shared
    nextObject := hno.ge
    errno := h.errno
    jobs := fun job _ hsp => ⟨congrFun hj job, hsp.congr (by simp [Server.waits, h.now, hs, hc, hjob])⟩
    threads := fun job => .inl (congrFun hth job)
    results := fun job => .inr (Server.resultOf_congr (congrFun hj job))
    trace := by
      refine ⟨acts.map (.act sid), h.trace, Obs.acts_map_self sid acts, fun sid' hne => Obs.acts_map_other hne acts, ?_⟩
      rw [h.accounts, List.foldl_map]
      rfl
    ledger := fun hl => by
      rw [hfi, hnf, h.trace]
      exact hl.acts sid acts }

/-- Service of a session keeps it settled. -/
theorem own (own : Own s) (h : Served sid s s' v acts) : Own s' := by
  obtain ⟨state, hs, hc, ht, _⟩ := h.session
  obtain ⟨hfi, _, _, _, hno⟩ := Server.resources_eq h.resources
  obtain ⟨hm, _, hl, hl', _⟩ := Server.shared_eq h.shared
  have hback : ∀ fd item, s'.selector.slot fd = some item → ∃ item0, s.selector.slot fd = some item0 ∧ item.bare = item0.bare := by
    intro fd item hi
    have hb := (h.bare fd).symm
    rw [hi, Option.map_some, Option.map_eq_some_iff] at hb
    obtain ⟨item0, hi0, hb⟩ := hb
    exact ⟨item0, hi0, hb.symm⟩
  refine own.frame (h.frame own) {
    slots := fun fd item hi ho => ?_
    client := fun st hst => ?_
    target := fun st hst hne => ?_
    opened := fun fd => ?_
    born := fun _ => ?_ }
  · obtain ⟨item0, hi0, hb⟩ := hback fd item hi
    refine ⟨(Item.fd_of_bare hb).trans (own.indexed fd item0 hi0), ?_⟩
    refine SlotOwned.congr hb (fun sid' ho' st hst => ?_) (fun mid hmid => hm ▸ hmid) hl hl' (own.owned fd item0 hi0)
    by_cases he : sid' = sid
    · subst he
      rw [hs] at hst
      cases hst
      exact ⟨v.state, h.now, hc, ht⟩
    · exact ⟨st, by rw [h.sessions, Function.update_of_ne he, hst], rfl, rfl⟩
  · rw [h.now] at hst
    cases hst
    exact Registered.of_bare (h.bare _) (hc ▸ own.client sid state hs)
  · rw [h.now] at hst
    cases hst
    exact Registered.of_bare (h.bare _) (ht ▸ own.target sid state hs (ht ▸ hne))
  · have hb := congrArg Option.isSome (h.bare fd)
    simp only [Option.isSome_map] at hb
    rw [hfi, hb, own.opened]
  · rw [hno]
    by_contra hlt
    rw [(own.fresh sid (by omega)).1] at hs
    cases hs

end Served

end SocksProxy
