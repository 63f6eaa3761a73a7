import CloudCredit.Gateway.HeartbeatStream

/-!
# Connected clusters

The manager has one entry for a cluster, which every new stream of the cluster replaces and
the end of any of its streams removes. The entry is made by the receiving goroutine, which
does not stop when the handler returns. So the entries are the connected clusters as long as
no stream ends while another one of its cluster is open or while its own first message is on
the way to the manager.
-/
namespace CloudCredit.Gateway

open Library TigerBeetle Accounting

/-- The cluster for which an open stream has made an entry. -/
def Stream.ownEntry (s : Stream) : Option String :=
  if s.isOpen && s.received && !s.connecting then some s.clusterID else none

/-- A stream has a cluster from its first message on, and is open until it has registered
it. -/
def Stream.ClusterKnown (s : Stream) : Prop :=
  match s.receiver with
  | .idle | .waiting _ => s.received = true ↔ s.clusterID ≠ ""
  | .received req => s.received = true ∧ (s.clusterID = "" → s.isOpen = true ∧ req.clusterId ≠ "")
  | .named _ => s.received = true ∧ s.isOpen = true ∧ s.clusterID ≠ ""

namespace Streams

/-- The clusters with an open stream that has delivered a message. -/
def connectedClusters (g : Streams) : Set String :=
  {c | ∃ i s, g.streams i = some s ∧ s.isOpen = true ∧ s.received = true ∧ s.clusterID = c}

/-- The first message of a stream names a cluster, and no stream is closed while its first
message is on the way to the manager or another stream of its cluster has an entry. -/
def OneStreamEach (g : Streams) : StreamEvent → Prop
  | .receive i req => ∀ s, g.streams i = some s → s.clusterID = "" → req.clusterId ≠ ""
  | .close i => ∀ s, g.streams i = some s → s.connecting = false ∧
      ∀ j t, j ≠ i → g.streams j = some t → t.ownEntry ≠ some s.clusterID
  | _ => True

/-- The entries of the manager are those the open streams have made. -/
structure Registered (g : Streams) : Prop where
  active : ∀ c, c ∈ g.manager.activeClusters ↔ ∃ i s, g.streams i = some s ∧ s.ownEntry = some c
  named : ∀ i s, g.streams i = some s → s.ClusterKnown

section Steps

variable {g g' : Streams} {i : ℕ} {s r : Stream} {ev : StreamEvent} {m : StreamManager}

theorem named_set (hnamed : ∀ j t, g.streams j = some t → t.ClusterKnown) (hnew : r.ClusterKnown) :
    ∀ j t, (g.setStream i r).streams j = some t → t.ClusterKnown := by
  intro j t hj
  rcases Table.set_eq_some.mp hj with ⟨-, rfl⟩ | ⟨-, hj⟩
  · exact hnew
  · exact hnamed j t hj

theorem exists_entry_split {c : String} (hi : g.streams i = some s) :
    (∃ j t, g.streams j = some t ∧ t.ownEntry = some c) ↔
      s.ownEntry = some c ∨ ∃ j t, j ≠ i ∧ g.streams j = some t ∧ t.ownEntry = some c := by
  constructor
  · rintro ⟨j, t, hj, ht⟩
    by_cases hji : j = i
    · subst hji
      cases hi.symm.trans hj
      exact .inl ht
    · exact .inr ⟨j, t, hji, hj, ht⟩
  · rintro (ht | ⟨j, t, -, hj, ht⟩)
    · exact ⟨i, s, hi, ht⟩
    · exact ⟨j, t, hj, ht⟩

theorem exists_entry_set {c : String} :
    (∃ j t, (g.setStream i r).streams j = some t ∧ t.ownEntry = some c) ↔
      r.ownEntry = some c ∨ ∃ j t, j ≠ i ∧ g.streams j = some t ∧ t.ownEntry = some c := by
  rw [exists_entry_split (Table.set_same g.streams i r)]
  refine or_congr_right (exists_congr fun j => exists_congr fun t => and_congr_right fun hne => ?_)
  rw [show (g.setStream i r).streams j = g.streams j from Table.set_other _ hne _]

/-- A stream changes and leaves its entry as it was. -/
theorem Registered.set (hr : Registered g) (hi : g.streams i = some s)
    (hentry : r.ownEntry = s.ownEntry) (hnamed : r.ClusterKnown) : Registered (g.setStream i r) := by
  refine ⟨fun c => ?_, named_set hr.named hnamed⟩
  rw [exists_entry_set, hentry, ← exists_entry_split hi]
  exact hr.active c

theorem Registered.congr (hr : Registered g)
    (hactive : g'.manager.activeClusters = g.manager.activeClusters)
    (hstreams : g'.streams = g.streams) : Registered g' := by
  refine ⟨fun c => ?_, hstreams ▸ hr.named⟩
  rw [hactive, hstreams]
  exact hr.active c

theorem Registered.opened (hr : Registered g) (hi : g.streams i = none) :
    Registered (g.setStream i {}) := by
  refine ⟨fun c => (hr.active c).trans ?_, named_set hr.named (by simp [Stream.ClusterKnown])⟩
  rw [exists_entry_set]
  constructor
  · rintro ⟨j, t, hj, ht⟩
    refine .inr ⟨j, t, fun hji => ?_, hj, ht⟩
    rw [hji, hi] at hj
    cases hj
  · rintro (ht | ⟨j, t, -, hj, ht⟩)
    · cases ht
    · exact ⟨j, t, hj, ht⟩

theorem Registered.receive {req : HeartbeatRequest} (hr : Registered g)
    (hi : g.streams i = some s) (hopen : s.isOpen = true) (hidle : s.receiver = .idle)
    (hnamed : s.clusterID = "" → req.clusterId ≠ "") :
    Registered (g.setStream i { s with received := true, receiver := .received req }) := by
  have hs := hr.named i s hi
  rw [Stream.ClusterKnown, hidle] at hs
  refine hr.set hi ?_ ⟨rfl, fun hempty => ⟨hopen, hnamed hempty⟩⟩
  by_cases hempty : s.clusterID = ""
  · have hsilent : s.received = false := by simpa [hempty] using hs
    simp [Stream.ownEntry, Stream.connecting, hempty, hsilent]
  · simp [Stream.ownEntry, Stream.connecting, hidle, hempty, hs]

theorem Registered.name {req : HeartbeatRequest} (hr : Registered g) (hi : g.streams i = some s)
    (hreq : s.receiver = .received req) (hempty : s.clusterID = "") :
    Registered (g.setStream i { s with clusterID := req.clusterId, receiver := .named req }) := by
  have hs := hr.named i s hi
  rw [Stream.ClusterKnown, hreq] at hs
  obtain ⟨hopen, hcluster⟩ := hs.2 hempty
  refine hr.set hi ?_ ⟨hs.1, hopen, hcluster⟩
  simp [Stream.ownEntry, Stream.connecting, hreq, hempty]

theorem Registered.handle {req : HeartbeatRequest} {now : ℕ} {valkey : Fate} (hr : Registered g)
    (hi : g.streams i = some s)
    (hreq : s.receiver = .named req ∨ s.receiver = .received req ∧ s.clusterID ≠ "") :
    Registered (g.handle i now valkey s req) := by
  have hs := hr.named i s hi
  have hafter : ∀ d : Bool,
      ({ s with receiver := if d then .idle else .waiting req } : Stream).ClusterKnown ↔
        (s.received = true ↔ s.clusterID ≠ "") := by
    intro d
    cases d <;> exact Iff.rfl
  have hentry : ∀ d : Bool,
      ({ s with receiver := if d then .idle else .waiting req } : Stream).ownEntry =
        if s.isOpen && s.received then some s.clusterID else none := by
    intro d
    cases d <;> simp [Stream.ownEntry, Stream.connecting]
  unfold Streams.handle
  rcases hreq with hreq | ⟨hreq, hne⟩
  · -- the entry is made now
    rw [Stream.ClusterKnown, hreq] at hs
    obtain ⟨hreceived, hopen, hne⟩ := hs
    have hnone : s.ownEntry = none := by simp [Stream.ownEntry, Stream.connecting, hreq]
    refine ⟨fun c => ?_, named_set hr.named ((hafter _).mpr (by simp [hreceived, hne]))⟩
    have hactive : c ∈ ((g.connect s now).touch s.clusterID now).activeClusters ↔
        c = s.clusterID ∨ c ∈ g.manager.activeClusters := by
      rw [StreamManager.touch_activeClusters, connect, hreq]
      exact StreamManager.mem_register _
    refine hactive.trans (Iff.trans ?_ exists_entry_set.symm)
    rw [hr.active, exists_entry_split hi, hnone, hentry, hopen, hreceived]
    simp [eq_comm]
  · rw [Stream.ClusterKnown, hreq] at hs
    have hkept : s.ownEntry = if s.isOpen && s.received then some s.clusterID else none := by
      simp [Stream.ownEntry, Stream.connecting, hreq, hne]
    refine Registered.set (s := s) (hr.congr ?_ rfl) hi ((hentry _).trans hkept.symm)
      ((hafter _).mpr (by simp [hs.1, hne]))
    refine (StreamManager.touch_activeClusters _ _ _).trans ?_
    rw [connect, hreq]

theorem Registered.close (hr : Registered g) (hi : g.streams i = some s)
    (hdone : s.connecting = false)
    (hlast : ∀ j t, j ≠ i → g.streams j = some t → t.ownEntry ≠ some s.clusterID) :
    Registered (g.close i s) := by
  have hclosed : ({ s with isOpen := false } : Stream).ownEntry = none := by simp [Stream.ownEntry]
  have hs := hr.named i s hi
  have hnamed : ({ s with isOpen := false } : Stream).ClusterKnown := by
    unfold Stream.ClusterKnown Stream.connecting at *
    cases hreq : s.receiver with
    | idle => simpa [hreq] using hs
    | waiting req => simpa [hreq] using hs
    | received req => simp_all
    | named req => simp [hreq] at hdone
  have hcluster : ∀ c, s.ownEntry = some c → c = s.clusterID ∧ s.clusterID ≠ "" := by
    intro c hc
    unfold Stream.ownEntry at hc
    split_ifs at hc with hcond
    refine ⟨(Option.some.inj hc).symm, ?_⟩
    unfold Stream.ClusterKnown Stream.connecting at *
    cases hreq : s.receiver <;> simp_all
  unfold Streams.close
  by_cases hempty : s.clusterID = ""
  · have hnone : s.ownEntry = none := by
      cases hc : s.ownEntry with
      | none => rfl
      | some c => exact absurd hempty (hcluster c hc).2
    dsimp only
    rw [if_neg (not_not.mpr hempty)]
    exact hr.set hi (hclosed.trans hnone.symm) hnamed
  · dsimp only
    rw [if_pos hempty]
    refine ⟨fun c => ?_, named_set hr.named hnamed⟩
    refine Iff.trans ?_ exists_entry_set.symm
    rw [StreamManager.mem_deregister, hr.active, exists_entry_split hi, hclosed]
    constructor
    · rintro ⟨hne, hown | hother⟩
      · exact absurd (hcluster c hown).1 hne
      · exact .inr hother
    · rintro (hnone | ⟨j, t, hji, hj, ht⟩)
      · cases hnone
      · refine ⟨fun hc => ?_, .inr ⟨j, t, hji, hj, ht⟩⟩
        rw [hc] at ht
        exact hlast j t hji hj ht

theorem Registered.idle {req : HeartbeatRequest} (hr : Registered g) (hi : g.streams i = some s)
    (hw : s.waiting = some req) (sigCh : List HeartbeatRequest) :
    Registered (g.setStream i { s with receiver := .idle, sigCh := sigCh }) := by
  have hreq := receiver_of_waiting hw
  have hs := hr.named i s hi
  rw [Stream.ClusterKnown, hreq] at hs
  exact hr.set hi (by simp [Stream.ownEntry, Stream.connecting, hreq]) hs

theorem Registered.step (hr : Registered g) (hc : g.OneStreamEach ev) (hs : g.step ev = some g') :
    Registered g' := by
  cases ev with
  | opened i =>
    simp only [Streams.step] at hs
    split at hs
    · rename_i hi
      cases hs
      exact hr.opened hi
    · cases hs
  | receive i req =>
    obtain ⟨s, hi, hopen, hidle, rfl⟩ := step_receive hs
    exact hr.receive hi hopen hidle (hc s hi)
  | name i =>
    obtain ⟨s, req, hi, hreq, hempty, rfl⟩ := step_name hs
    exact hr.name hi hreq hempty
  | handle i now valkey =>
    obtain ⟨s, req, hi, rfl, hreq⟩ := step_handle hs
    exact hr.handle hi hreq
  | enqueue i =>
    obtain ⟨s, hi, hs⟩ := Option.bind_eq_some_iff.mp hs
    obtain ⟨req, hw, hs⟩ := Option.bind_eq_some_iff.mp hs
    split_ifs at hs
    cases hs
    exact hr.idle hi hw _
  | timeout i =>
    obtain ⟨s, hi, hs⟩ := Option.bind_eq_some_iff.mp hs
    obtain ⟨req, hw, rfl⟩ := Option.map_eq_some_iff.mp hs
    exact hr.idle hi hw _
  | dispatch i =>
    obtain ⟨s, hi, hs⟩ := Option.bind_eq_some_iff.mp hs
    split at hs
    · cases hs
      exact hr.set hi rfl (hr.named i s hi)
    · cases hs
  | signal i w =>
    obtain ⟨s, hi, hs⟩ := Option.bind_eq_some_iff.mp hs
    obtain ⟨x, -, rfl⟩ := Option.map_eq_some_iff.mp hs
    exact Registered.set (s := s) (hr.congr rfl rfl) hi rfl (hr.named i s hi)
  | cancelled i =>
    obtain ⟨s, hi, hs⟩ := Option.bind_eq_some_iff.mp hs
    obtain ⟨x, -, hs⟩ := Option.bind_eq_some_iff.mp hs
    split_ifs at hs
    cases hs
    exact hr.set hi rfl (hr.named i s hi)
  | close i =>
    obtain ⟨s, hi, hs⟩ := Option.bind_eq_some_iff.mp hs
    split_ifs at hs
    cases hs
    exact hr.close hi (hc s hi).1 (hc s hi).2
  | evict clusterID now =>
    cases hs
    exact hr.congr rfl rfl

end Steps

/-- As long as every stream names its cluster with its first message, and none is closed
while that message is on the way to the manager or another stream of its cluster has an
entry, the active clusters are the connected ones, except for first messages that are on
the way. -/
theorem active_iff_connected (dedup : Deduplicator) (es : List StreamEvent) (g : Streams)
    (hr : runSteps step { dedup } es = some g)
    (hc : Along step OneStreamEach { dedup } es)
    (hdone : ∀ i s, g.streams i = some s → s.connecting = false) :
    g.manager.activeClusters = g.connectedClusters := by
  have hstart : Registered { dedup } := by
    refine ⟨fun c => ?_, fun i s hi => by cases hi⟩
    simp [StreamManager.activeClusters]
  have hend := invariant_along step (fun _ _ _ hr hc hs => hr.step hc hs) hstart hc hr
  ext c
  rw [hend.active]
  refine exists_congr fun i => exists_congr fun s => and_congr_right fun hi => ?_
  simp [Stream.ownEntry, hdone i s hi, and_assoc]

/-- A message of the cluster "a" is read from the given stream. -/
def sampleMessage (i : ℕ) : StreamEvent :=
  .receive i { clusterId := "a", sequenceNumber := 1 }

/-- It is read and registered. -/
def sampleArrival (i : ℕ) : List StreamEvent := [sampleMessage i, .name i, .handle i 0 .answered]

/-- A cluster connects again after its first stream was closed. -/
theorem reconnected_cluster_is_active : ∃ g,
    runSteps step { dedup := .mem { ttl := 600 } } (.opened 0 :: sampleArrival 0 ++
        [.close 0, .opened 1] ++ sampleArrival 1) = some g ∧
      g.manager.activeClusters = g.connectedClusters ∧ "a" ∈ g.connectedClusters := by
  have hnamed : ∀ (g : Streams) i, g.OneStreamEach (sampleMessage i) := fun _ _ _ _ _ => by decide
  refine ⟨_, rfl, active_iff_connected (.mem { ttl := 600 }) (.opened 0 :: sampleArrival 0 ++
    [.close 0, .opened 1] ++ sampleArrival 1) _ rfl ?_ ?_, 1, _, rfl, rfl, rfl, rfl⟩
  · refine ⟨trivial, fun g₁ h₁ => ⟨hnamed _ _, fun g₂ h₂ => ⟨trivial, fun g₃ h₃ => ⟨trivial,
      fun g₄ h₄ => ⟨?_, fun _ _ => ⟨trivial, fun _ _ => ⟨hnamed _ _, fun _ _ => ⟨trivial, fun _ _ =>
        ⟨trivial, fun _ _ => trivial⟩⟩⟩⟩⟩⟩⟩⟩⟩
    obtain rfl := Option.some.inj h₁
    obtain rfl := Option.some.inj h₂
    obtain rfl := Option.some.inj h₃
    obtain rfl := Option.some.inj h₄
    intro s hs
    cases hs
    refine ⟨rfl, fun j t hj ht => ?_⟩
    cases j with
    | zero => exact absurd rfl hj
    | succ j => cases ht
  · intro i s hi
    match i with
    | 0 => cases hi; rfl
    | 1 => cases hi; rfl
    | i + 2 => cases hi

/-- A cluster opens a second stream before its first one is closed. The second one stays open,
but the cluster is not active any more. And a stream is closed while its first message is on
the way to the manager. The cluster stays active although no stream is open. -/
theorem overlapping_reconnect_is_forgotten :
    (∃ g, runSteps step { dedup := .mem { ttl := 600 } } (.opened 0 :: sampleArrival 0 ++
        .opened 1 :: sampleArrival 1 ++ [.close 0]) = some g ∧
      "a" ∈ g.connectedClusters ∧ "a" ∉ g.manager.activeClusters) ∧
    ∃ g, runSteps step { dedup := .mem { ttl := 600 } } [.opened 0, sampleMessage 0, .close 0,
        .name 0, .handle 0 0 .answered] = some g ∧
      "a" ∉ g.connectedClusters ∧ "a" ∈ g.manager.activeClusters := by
  refine ⟨⟨_, rfl, ⟨1, _, rfl, rfl, rfl, rfl⟩, by decide⟩, _, rfl, ?_, by decide⟩
  rintro ⟨i, s, hi, hopen, -⟩
  cases i with
  | zero => cases hi; cases hopen
  | succ i => cases hi

end Streams

end CloudCredit.Gateway
