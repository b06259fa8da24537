import Kesharon.Daemon.Steps

namespace Kesharon.Daemon

open Framework Domain Protocol Application

/-- The calls in progress and the two maps of the session agree: one active entry per running
request id, one in-flight entry per running key. -/
structure Operations (flagCount : Nat) (opens : Assoc FlagId OpenCall)
    (active : Assoc String ActiveOperation) (inFlight : Assoc String MutationFingerprint) :
    Prop where
  cancellation : ∀ f c, opens.lookup f = some c → c.cancellation = f ∧ f < flagCount
  active_iff : ∀ r f, active.lookup r = some ⟨f⟩ ↔
    ∃ c, opens.lookup f = some c ∧ c.request.requestId = r
  inFlight_iff : ∀ k fp, inFlight.lookup k = some fp ↔
    ∃ f c, opens.lookup f = some c ∧ c.key = k ∧ c.fingerprint = fp
  key_unique : ∀ f f' c c', opens.lookup f = some c → opens.lookup f' = some c' →
    c.key = c'.key → f = f'

namespace Operations

variable {flagCount : Nat} {opens : Assoc FlagId OpenCall} {active : Assoc String ActiveOperation}
  {inFlight : Assoc String MutationFingerprint}

theorem empty : Operations 0 ∅ ∅ ∅ := by
  constructor <;> simp

theorem mem_active (h : Operations flagCount opens active inFlight) (r : String) :
    r ∈ active ↔ ∃ f c, opens.lookup f = some c ∧ c.request.requestId = r := by
  rw [← AList.lookup_isSome, Option.isSome_iff_exists]
  constructor
  · intro hr
    obtain ⟨⟨f⟩, hf⟩ := hr
    exact ⟨f, (h.active_iff r f).mp hf⟩
  · intro hr
    obtain ⟨f, hf⟩ := hr
    exact ⟨⟨f⟩, (h.active_iff r f).mpr hf⟩

theorem mem_inFlight (h : Operations flagCount opens active inFlight) (k : String) :
    k ∈ inFlight ↔ ∃ f c, opens.lookup f = some c ∧ c.key = k := by
  rw [← AList.lookup_isSome, Option.isSome_iff_exists]
  constructor
  · intro hk
    obtain ⟨fp, hfp⟩ := hk
    obtain ⟨f, c, hc, hck, _⟩ := (h.inFlight_iff k fp).mp hfp
    exact ⟨f, c, hc, hck⟩
  · intro hk
    obtain ⟨f, c, hc, hck⟩ := hk
    exact ⟨c.fingerprint, (h.inFlight_iff k _).mpr ⟨f, c, hc, hck, rfl⟩⟩

theorem mono (h : Operations flagCount opens active inFlight) {n : Nat} (le : flagCount ≤ n) :
    Operations n opens active inFlight :=
  ⟨fun f c hc => ⟨(h.cancellation f c hc).1, Nat.lt_of_lt_of_le (h.cancellation f c hc).2 le⟩,
    h.active_iff, h.inFlight_iff, h.key_unique⟩

/-- Two running calls never share a request id. -/
theorem request_unique (h : Operations flagCount opens active inFlight) {f f' : FlagId}
    {c c' : OpenCall} (hc : opens.lookup f = some c) (hc' : opens.lookup f' = some c')
    (same : c.request.requestId = c'.request.requestId) : f = f' := by
  have ha := (h.active_iff c.request.requestId f).mpr ⟨c, hc, rfl⟩
  have hb := (h.active_iff c.request.requestId f').mpr ⟨c', hc', same.symm⟩
  rw [ha] at hb
  exact congrArg ActiveOperation.cancellation (Option.some.inj hb)

/-- A call whose request id and key are both free begins. -/
theorem begin (h : Operations flagCount opens active inFlight) (c : OpenCall)
    (hc : c.cancellation = flagCount) (idle : c.request.requestId ∉ active)
    (free : c.key ∉ inFlight) :
    Operations (flagCount + 1) (opens.insert flagCount c)
      (active.insert c.request.requestId ⟨flagCount⟩) (inFlight.insert c.key c.fingerprint) := by
  have old {f : FlagId} {d : OpenCall} (hd : opens.lookup f = some d) : f ≠ flagCount := by
    have hlt : f < flagCount := (h.cancellation f d hd).2
    exact Nat.ne_of_lt hlt
  have otherRequest {f : FlagId} {d : OpenCall} (hd : opens.lookup f = some d) :
      d.request.requestId ≠ c.request.requestId :=
    fun he => idle ((h.mem_active _).mpr ⟨f, d, hd, he⟩)
  have otherKey {f : FlagId} {d : OpenCall} (hd : opens.lookup f = some d) : d.key ≠ c.key :=
    fun he => free ((h.mem_inFlight _).mpr ⟨f, d, hd, he⟩)
  refine ⟨?_, ?_, ?_, ?_⟩
  · intro f d hd
    rw [Assoc.lookup_insert_ite] at hd
    split_ifs at hd with hf
    · obtain rfl := Option.some.inj hd
      exact ⟨hc.trans hf.symm, hf ▸ Nat.lt_succ_self _⟩
    · have hold := h.cancellation f d hd
      exact ⟨hold.1, Nat.lt_succ_of_lt hold.2⟩
  · intro r f
    rw [Assoc.lookup_insert_ite, Assoc.lookup_insert_ite]
    by_cases hr : r = c.request.requestId
    · rw [if_pos hr]
      constructor
      · intro hf
        have hff : flagCount = f := congrArg ActiveOperation.cancellation (Option.some.inj hf)
        exact ⟨c, by rw [if_pos hff.symm], hr.symm⟩
      · intro hf
        obtain ⟨d, hd, hdr⟩ := hf
        split_ifs at hd with hff
        · rw [hff]
        · exact absurd (hdr.trans hr) (otherRequest hd)
    · rw [if_neg hr, h.active_iff]
      constructor
      · intro hf
        obtain ⟨d, hd, hdr⟩ := hf
        exact ⟨d, by rw [if_neg (old hd), hd], hdr⟩
      · intro hf
        obtain ⟨d, hd, hdr⟩ := hf
        split_ifs at hd with hff
        · obtain rfl := Option.some.inj hd
          exact absurd hdr.symm hr
        · exact ⟨d, hd, hdr⟩
  · intro k fp
    rw [Assoc.lookup_insert_ite]
    by_cases hk : k = c.key
    · rw [if_pos hk]
      constructor
      · intro hfp
        exact ⟨flagCount, c, AList.lookup_insert _, hk.symm, Option.some.inj hfp⟩
      · intro hf
        obtain ⟨f, d, hd, hdk, hdf⟩ := hf
        rw [Assoc.lookup_insert_ite] at hd
        split_ifs at hd with hff
        · rw [Option.some.inj hd, hdf]
        · exact absurd (hdk.trans hk) (otherKey hd)
    · rw [if_neg hk, h.inFlight_iff]
      constructor
      · intro hf
        obtain ⟨f, d, hd, hdk⟩ := hf
        exact ⟨f, d, by rw [Assoc.lookup_insert_ite, if_neg (old hd), hd], hdk⟩
      · intro hf
        obtain ⟨f, d, hd, hdk⟩ := hf
        rw [Assoc.lookup_insert_ite] at hd
        split_ifs at hd with hff
        · obtain rfl := Option.some.inj hd
          exact absurd hdk.1.symm hk
        · exact ⟨f, d, hd, hdk⟩
  · intro f f' d d' hd hd' hk
    rw [Assoc.lookup_insert_ite] at hd hd'
    split_ifs at hd hd' with hf hf'
    · rw [hf, hf']
    · obtain rfl := Option.some.inj hd
      exact absurd hk.symm (otherKey hd')
    · obtain rfl := Option.some.inj hd'
      exact absurd hk (otherKey hd)
    · exact h.key_unique f f' d d' hd hd' hk

/-- A call that is there after a move was there before, but for its execution. -/
theorem lookup_move {f g : FlagId} {c d : OpenCall} {e : Execution} (hc : opens.lookup f = some c)
    (hd : (opens.insert f { c with execution := e }).lookup g = some d) :
    ∃ d', opens.lookup g = some d' ∧ d'.request = d.request ∧ d'.key = d.key ∧
      d'.path = d.path ∧ d'.cancellation = d.cancellation := by
  rw [Assoc.lookup_insert_ite] at hd
  split_ifs at hd with hg
  · obtain rfl := Option.some.inj hd
    exact ⟨c, by rw [hg, hc], rfl, rfl, rfl, rfl⟩
  · exact ⟨d, hd, rfl, rfl, rfl, rfl⟩

/-- A call moves inside its use case under the same request and key. -/
theorem move (h : Operations flagCount opens active inFlight) {f : FlagId} {c : OpenCall}
    (hc : opens.lookup f = some c) (e : Execution) :
    Operations flagCount (opens.insert f { c with execution := e }) active inFlight := by
  have back (g : FlagId) (d : OpenCall) (hd : opens.lookup g = some d) :
      ∃ d', (opens.insert f { c with execution := e }).lookup g = some d' ∧
        d'.request = d.request ∧ d'.key = d.key ∧ d'.path = d.path := by
    rw [Assoc.lookup_insert_ite]
    by_cases hg : g = f
    · subst g
      obtain rfl := Option.some.inj (hc.symm.trans hd)
      exact ⟨_, if_pos rfl, rfl, rfl, rfl⟩
    · exact ⟨d, by rw [if_neg hg, hd], rfl, rfl, rfl⟩
  refine ⟨?_, ?_, ?_, ?_⟩
  · intro g d hd
    obtain ⟨d', hd', _, _, _, hcan⟩ := lookup_move hc hd
    have := h.cancellation g d' hd'
    exact ⟨hcan ▸ this.1, this.2⟩
  · intro r g
    rw [h.active_iff]
    constructor
    · intro hr
      obtain ⟨d, hd, hdr⟩ := hr
      obtain ⟨d', hd', hreq, _⟩ := back g d hd
      exact ⟨d', hd', by rw [hreq, hdr]⟩
    · intro hr
      obtain ⟨d, hd, hdr⟩ := hr
      obtain ⟨d', hd', hreq, _⟩ := lookup_move hc hd
      exact ⟨d', hd', by rw [hreq, hdr]⟩
  · intro k fp
    rw [h.inFlight_iff]
    constructor
    · intro hk
      obtain ⟨g, d, hd, hdk, hdf⟩ := hk
      obtain ⟨d', hd', _, hkey, hpath⟩ := back g d hd
      exact ⟨g, d', hd', by rw [hkey, hdk], by rw [← hdf, OpenCall.fingerprint, hpath]; rfl⟩
    · intro hk
      obtain ⟨g, d, hd, hdk, hdf⟩ := hk
      obtain ⟨d', hd', _, hkey, hpath, _⟩ := lookup_move hc hd
      exact ⟨g, d', hd', by rw [hkey, hdk], by rw [← hdf, OpenCall.fingerprint, hpath]; rfl⟩
  · intro g g' d d' hd hd' hk
    obtain ⟨e, he, _, hek, _⟩ := lookup_move hc hd
    obtain ⟨e', he', _, hek', _⟩ := lookup_move hc hd'
    exact h.key_unique g g' e e' he he' (by rw [hek, hek', hk])

/-- A finishing call removes exactly its own entries. -/
theorem finish (h : Operations flagCount opens active inFlight) {f : FlagId} {c : OpenCall}
    (hc : opens.lookup f = some c) :
    Operations flagCount (opens.erase f) (active.erase c.request.requestId)
      (inFlight.erase c.key) := by
  refine ⟨?_, ?_, ?_, ?_⟩
  · intro g d hd
    exact h.cancellation g d (Assoc.lookup_erase_eq_some.mp hd).2
  · intro r g
    rw [Assoc.lookup_erase_ite]
    by_cases hr : r = c.request.requestId
    · rw [if_pos hr]
      constructor
      · intro hn
        simp at hn
      · intro hg
        obtain ⟨d, hd, hdr⟩ := hg
        obtain ⟨hne, hd⟩ := Assoc.lookup_erase_eq_some.mp hd
        exact absurd (h.request_unique hd hc (hdr.trans hr)) hne
    · rw [if_neg hr, h.active_iff]
      constructor
      · intro hg
        obtain ⟨d, hd, hdr⟩ := hg
        refine ⟨d, Assoc.lookup_erase_eq_some.mpr ⟨?_, hd⟩, hdr⟩
        intro hgf
        rw [hgf, hc] at hd
        exact hr (by rw [← hdr, Option.some.inj hd])
      · intro hg
        obtain ⟨d, hd, hdr⟩ := hg
        exact ⟨d, (Assoc.lookup_erase_eq_some.mp hd).2, hdr⟩
  · intro k fp
    rw [Assoc.lookup_erase_ite]
    by_cases hk : k = c.key
    · rw [if_pos hk]
      constructor
      · intro hn
        simp at hn
      · intro hg
        obtain ⟨g, d, hd, hdk, _⟩ := hg
        obtain ⟨hne, hd⟩ := Assoc.lookup_erase_eq_some.mp hd
        exact absurd (h.key_unique g f d c hd hc (hdk.trans hk)) hne
    · rw [if_neg hk, h.inFlight_iff]
      constructor
      · intro hg
        obtain ⟨g, d, hd, hdk, hdf⟩ := hg
        refine ⟨g, d, Assoc.lookup_erase_eq_some.mpr ⟨?_, hd⟩, hdk, hdf⟩
        intro hgf
        rw [hgf, hc] at hd
        exact hk (by rw [← hdk, Option.some.inj hd])
      · intro hg
        obtain ⟨g, d, hd, hdk⟩ := hg
        exact ⟨g, d, (Assoc.lookup_erase_eq_some.mp hd).2, hdk⟩
  · intro g g' d d' hd hd' hk
    exact h.key_unique g g' d d' (Assoc.lookup_erase_eq_some.mp hd).2 (Assoc.lookup_erase_eq_some.mp hd').2 hk

end Operations

/-- The bookkeeping of a world: its operations, and no key both running and completed. -/
structure Bookkeeping {σ : Type} (w : World σ) : Prop where
  operations : Operations w.flagCount w.opens w.state.active w.state.inFlight
  disjoint : ∀ k ∈ w.state.inFlight, k ∉ w.state.completed

theorem mem_rememberCompleted {s : SessionState} {c : Completion} {k : String}
    (h : k ∈ (s.rememberCompleted c).completed) : k = c.key ∨ k ∈ s.completed := by
  have hm := mem_of_mem_evict _ _ _ _ h
  rwa [AList.mem_insert] at hm

section Preservation

variable {σ : Type} [StateRepository σ] {streamId : String} {w w' : World σ}

theorem outcome_bookkeeping {a : Action} {o : Output} (h : Bookkeeping w)
    (hs : Outcome streamId w a w' o) : Bookkeeping w' := by
  cases hs with
  | answered request response => exact h
  | begun request path key event method keyed notCompleted notInFlight idle next =>
    obtain ⟨sub, chans, he⟩ := (w.register request.requestId path key).emit_frame event
    unfold World.begun
    rw [he]
    constructor
    · exact h.operations.begin ⟨request,key,path,w.flagCount,.entered⟩ rfl idle notInFlight
    · intro k hk
      rcases (AList.mem_insert _).mp hk with rfl | hk
      · exact notCompleted
      · exact h.disjoint k hk
  | cancelled request target key completion method keyed notCompleted notInFlight completes =>
    subst completes
    refine ⟨h.operations, ?_⟩
    intro k hk hc
    rcases mem_rememberCompleted hc with rfl | hc
    · exact notInFlight hk
    · exact h.disjoint k hk hc
  | moved _ flag call execution running moves => exact ⟨h.operations.move running execution, h.disjoint⟩
  | finished flag call result repo project payload event response saved completion running here
      settles next completes =>
    subst completes
    obtain ⟨sub, chans, he⟩ := ((w.remove flag call).setRepository repo).emit_frame event
    unfold World.finished World.settled
    rw [he]
    constructor
    · exact h.operations.finish running
    · intro k hk hc
      have hk' : k ∈ w.state.inFlight.erase call.key := hk
      obtain ⟨hne, hk'⟩ := AList.mem_erase.mp hk'
      rcases mem_rememberCompleted hc with rfl | hc
      · exact hne rfl
      · exact h.disjoint k hk' hc
  | subscribed =>
    unfold World.subscribe
    split_ifs
    · exact h
    · exact ⟨h.operations, h.disjoint⟩
  | received ch r c known alive recv => exact ⟨h.operations, h.disjoint⟩
  | hungUp ch known => exact ⟨h.operations, h.disjoint⟩

omit [StateRepository σ] in
theorem init_bookkeeping (project : Option ProjectSnapshot) (task : Option Task)
    (repo : Option σ) : Bookkeeping (World.init project task repo) :=
  ⟨Operations.empty, by simp [World.init, SessionState.new]⟩

theorem Started.bookkeeping (h : Started w) : Bookkeeping w := by
  obtain ⟨project, task, repo, rfl⟩ := h.init
  exact init_bookkeeping project task repo

end Preservation

end Kesharon.Daemon
