import IsaWorkspace.Orchestration.Selection

/-
  New work for a node that is draining.

  A report of the node replaces its status, so that a node
  which was registered as draining becomes healthy with the
  first report that does not find it overloaded.  From then
  on it is selected like any other.

  Main declarations:
    * `WorkCall`, `DrainBook`, `DrainBook.step`
    * `DrainBook.NotReturned`, `DrainBook.Spares`
    * `EdgeOrchestrator.exists_isBest_iff`
    * `DrainBook.notReturned_iff`
    * `DrainBook.notReturned_of_overloaded`
-/

------------------------------------------------------------
-- Calls
------------------------------------------------------------

namespace IsaWorkspace

/- Calls that report on nodes or ask for one. -/
inductive WorkCall where
  | updateNodeHealth
      (now : DateTime) (nodeId : String)
      (health : NodeHealth)
  | incrementFailureCount (nodeId : String)
  | resetFailureCount (nodeId : String)
  | findBestNode (regionPreference : Option String)
  | placeVm (regionPreference : Option String)

namespace WorkCall

/- What a call changes, if it does. -/
def change : WorkCall → Option NodeCall
| .updateNodeHealth now nodeId health =>
    some (.updateNodeHealth now nodeId health)
| .incrementFailureCount nodeId =>
    some (.incrementFailureCount nodeId)
| .resetFailureCount nodeId =>
    some (.resetFailureCount nodeId)
| .findBestNode _ => none
| .placeVm _ => none

def run
    [BuildProfile]
    (orchestrator : EdgeOrchestrator)
    (call : WorkCall) : EdgeOrchestrator :=
  match call.change with
  | none => orchestrator
  | some change => change.run orchestrator

/- A node is not what a call returns, in any visit. -/
def Spares
    (nodeId : String)
    (orchestrator : EdgeOrchestrator) : WorkCall → Prop
| .findBestNode regionPreference =>
    ∀ order found,
      orchestrator.findBestNode order regionPreference =
          some (some found) →
        found.config.nodeId ≠ nodeId
| .placeVm regionPreference =>
    ∀ order decision,
      orchestrator.placeVm order regionPreference =
          some (some decision) →
        decision.nodeId ≠ nodeId
| _ => True

/- The preference that a call asks for a node with. -/
def asksWith : WorkCall → Option (Option String)
| .findBestNode regionPreference => some regionPreference
| .placeVm regionPreference => some regionPreference
| _ => none

end WorkCall

/- The node is too busy, or too short of memory. -/
def NodeHealth.IsOverloaded
    (health : NodeHealth) : Prop :=
  (F32.ofRat (9 / 10)).lt health.cpuUtilization = true ∨
    health.availableMemoryMb < 512

instance
    (health : NodeHealth) :
    Decidable health.IsOverloaded :=
  inferInstanceAs (Decidable (_ ∨ _))

/- An orchestrator and the latest report of a node, if any. -/
structure DrainBook where
  orchestrator : EdgeOrchestrator
  latest : Option NodeHealth

namespace DrainBook

/- Nothing is reported at the registration. -/
def start
    (orchestrator : EdgeOrchestrator) : DrainBook where
  orchestrator := orchestrator
  latest := none

def step
    [BuildProfile]
    (nodeId : String)
    (book : DrainBook)
    (call : WorkCall) : DrainBook where
  orchestrator := call.run book.orchestrator
  latest :=
    match call with
    | .updateNodeHealth _ reported health =>
        if reported = nodeId then some health
        else book.latest
    | _ => book.latest

def NotReturned
    (nodeId : String)
    (book : DrainBook)
    (call : WorkCall) : Prop :=
  call.Spares nodeId book.orchestrator

/-
  The latest report did not find the node overloaded, and it
  has room in the region asked for.
-/
structure Reopened
    (nodeId : String)
    (book : DrainBook)
    (regionPreference : Option String)
    (node : EdgeNode) : Prop where
  stored :
    book.orchestrator.nodes.lookup nodeId = some node
  reported :
    ∃ health,
      book.latest = some health ∧ ¬ health.IsOverloaded
  room : node.currentVms < node.config.maxVms
  region :
    ∀ region, regionPreference = some region →
      node.config.region = region

/-
  If the node is open again when one is asked for, another
  candidate scores higher or does not compare with it.
-/
def Outranked
    (nodeId : String)
    (book : DrainBook)
    (call : WorkCall) : Prop :=
  ∀ regionPreference node,
    call.asksWith = some regionPreference →
      Reopened nodeId book regionPreference node →
        ∃ otherId other,
          otherId ≠ nodeId ∧
            book.orchestrator.nodes.lookup otherId =
                some other ∧
            EdgeOrchestrator.isCandidate regionPreference
                other = true ∧
            EdgeOrchestrator.scoresBelow other node = false

/- A report has opened the node again, or none has. -/
structure Tracks
    (nodeId : String)
    (book : DrainBook) : Prop where
  keyed : book.orchestrator.KeyedByNodeId
  stored :
    ∃ node,
      book.orchestrator.nodes.lookup nodeId = some node ∧
        (node.status = .healthy ↔
          ∃ health,
            book.latest = some health ∧
              ¬ health.IsOverloaded)

end DrainBook

end IsaWorkspace

------------------------------------------------------------
-- Selection in Any Visit
------------------------------------------------------------

namespace IsaWorkspace

namespace EdgeOrchestrator

variable {orchestrator : EdgeOrchestrator}
variable {nodeId : String} {node : EdgeNode}

/-
  A node is the best one in some visit exactly when it is a
  candidate that all the others score at most as high as.
-/
theorem exists_isBest_iff
    (hKeyed : orchestrator.KeyedByNodeId)
    (hNode : orchestrator.nodes.lookup nodeId = some node)
    (regionPreference : Option String) :
    (∃ order,
        orchestrator.IsBest order regionPreference node) ↔
      isCandidate regionPreference node = true ∧
        ∀ otherId other,
          otherId ≠ nodeId →
            orchestrator.nodes.lookup otherId =
                some other →
              isCandidate regionPreference other = true →
                scoresBelow other node = true := by
  constructor
  · rintro ⟨order, hBest⟩
    refine ⟨(hBest.candidate hKeyed).2, ?_⟩
    intro otherId other hNe hOther hCandidate
    have hOtherId := hKeyed otherId other hOther
    have hThere :
        other ∈
          orchestrator.candidates order regionPreference := by
      rw [mem_candidates_iff hKeyed, hOtherId]
      exact ⟨hOther, hCandidate⟩
    have hDistinct : other ≠ node := by
      rintro rfl
      exact hNe (hOtherId ▸ hKeyed nodeId other hNode)
    exact hBest.le_of_mem hThere hDistinct
  · rintro ⟨hCandidate, hBelow⟩
    rcases HashMap.Iteration.exists_last hNode with
      ⟨order, others, hEntries⟩
    refine
      ⟨order,
        (others.map (·.2)).filter
          (isCandidate regionPreference),
        [], ?_, ?_, List.forall_mem_nil _⟩
    · unfold candidates
      rw [hEntries, List.map_append, List.filter_append]
      simp [hCandidate]
    · intro other hOther
      rcases List.mem_filter.mp hOther with
        ⟨hThere, hOtherCandidate⟩
      rcases List.mem_map.mp hThere with
        ⟨entry, hEntry, rfl⟩
      have hMem : entry ∈ order.entries := by
        rw [hEntries]
        exact List.mem_append_left _ hEntry
      refine
        hBelow entry.1 entry.2 ?_
          ((order.mem_iff _ _).mp hMem) hOtherCandidate
      -- the keys before the last one differ from it
      intro hSame
      have hNodup := order.nodup
      rw [hEntries, List.map_append] at hNodup
      exact
        (List.nodup_append.mp hNodup).2.2 entry.1
          (List.mem_map_of_mem hEntry) nodeId
          (List.mem_singleton_self _) hSame

/- A call spares a node that is the best one in no visit. -/
theorem spares_iff
    (hKeyed : orchestrator.KeyedByNodeId)
    (hNode : orchestrator.nodes.lookup nodeId = some node)
    {call : WorkCall}
    {regionPreference : Option String}
    (hAsks : call.asksWith = some regionPreference) :
    call.Spares nodeId orchestrator ↔
      ¬ ∃ order,
        orchestrator.IsBest order regionPreference node := by
  rw [not_exists]
  cases call with
  | findBestNode preferred =>
      cases hAsks
      apply forall_congr'
      intro order
      constructor
      · intro hSpares hBest
        exact
          hSpares node (findBestNode_eq_some_iff.mpr hBest)
            (hKeyed nodeId node hNode)
      · intro hNotBest found hFound hId
        have hBest := findBestNode_eq_some_iff.mp hFound
        have hStored := (hBest.candidate hKeyed).1
        rw [hId, hNode] at hStored
        cases hStored
        exact hNotBest hBest
  | placeVm preferred =>
      cases hAsks
      apply forall_congr'
      intro order
      rw [← placeVm_for_iff hKeyed hNode, not_exists]
      apply forall_congr'
      intro decision
      exact not_and.symm
  | _ => cases hAsks

end EdgeOrchestrator

end IsaWorkspace

------------------------------------------------------------
-- Reports
------------------------------------------------------------

namespace IsaWorkspace

/- Only a report without overload makes a node healthy. -/
theorem EdgeNode.updateHealth_healthy_iff
    (now : DateTime)
    (health : NodeHealth)
    (node : EdgeNode) :
    (node.updateHealth now health).status = .healthy ↔
      ¬ health.IsOverloaded := by
  unfold EdgeNode.updateHealth NodeHealth.IsOverloaded
  dsimp only
  split
  · next hOver => exact iff_of_false nofun (not_not_intro hOver)
  · next hFine =>
      split
      · next hCritical =>
          exact absurd (degraded_of_isCritical hCritical) hFine
      · exact iff_of_true rfl hFine

theorem EdgeNode.status_countFailure
    [BuildProfile]
    (node : EdgeNode) :
    node.countFailure.status = node.status := by
  unfold EdgeNode.countFailure
  split <;> rfl

namespace DrainBook

variable [BuildProfile]
variable {nodeId : String} {book : DrainBook}

/- What changes no status keeps track. -/
omit [BuildProfile] in
theorem Tracks.modifyNode
    (hTracks : Tracks nodeId book)
    {change : EdgeNode → EdgeNode}
    (hConfig : ∀ node, (change node).config = node.config)
    (hStatus : ∀ node, (change node).status = node.status)
    (changed : String) :
    Tracks nodeId
      ⟨book.orchestrator.modifyNode changed change,
        book.latest⟩ := by
  refine
    ⟨EdgeOrchestrator.keyedByNodeId_modifyNode hConfig
      changed hTracks.keyed, ?_⟩
  rcases hTracks.stored with ⟨node, hNode, hHealthy⟩
  by_cases hSame : nodeId = changed
  · refine ⟨change node, ?_, ?_⟩
    · exact
        (EdgeOrchestrator.lookup_modifyNode _ _ _ _).trans
          (by rw [if_pos hSame, hNode, Option.map_some])
    · rw [hStatus]
      exact hHealthy
  · refine ⟨node, ?_, hHealthy⟩
    exact
      (EdgeOrchestrator.lookup_modifyNode _ _ _ _).trans
        ((if_neg hSame).trans hNode)

/- A report of the node decides whether it is open. -/
theorem Tracks.report
    (hTracks : Tracks nodeId book)
    (now : DateTime)
    (reported : String)
    (health : NodeHealth) :
    Tracks nodeId
      (book.step nodeId
        (.updateNodeHealth now reported health)) := by
  refine
    ⟨EdgeOrchestrator.keyedByNodeId_nodeCall _
      (.updateNodeHealth now reported health)
      hTracks.keyed, ?_⟩
  rcases hTracks.stored with ⟨node, hNode, hHealthy⟩
  by_cases hSame : reported = nodeId
  · refine ⟨node.updateHealth now health, ?_, ?_⟩
    · exact
        (EdgeOrchestrator.lookup_modifyNode _ _ _ _).trans
          (by rw [if_pos hSame.symm, hNode, Option.map_some])
    · rw [EdgeNode.updateHealth_healthy_iff]
      unfold step
      dsimp only
      rw [if_pos hSame]
      simp
  · refine ⟨node, ?_, ?_⟩
    · exact
        (EdgeOrchestrator.lookup_modifyNode _ _ _ _).trans
          ((if_neg (Ne.symm hSame)).trans hNode)
    · unfold step
      dsimp only
      rw [if_neg hSame]
      exact hHealthy

theorem tracks_step
    (book : DrainBook)
    (call : WorkCall)
    (hTracks : Tracks nodeId book) :
    Tracks nodeId (book.step nodeId call) := by
  cases call with
  | updateNodeHealth now reported health =>
      exact hTracks.report now reported health
  | incrementFailureCount counted =>
      change
        Tracks nodeId
          ⟨(book.orchestrator.incrementFailureCount
              counted).2,
            book.latest⟩
      rw [EdgeOrchestrator.incrementFailureCount_eq]
      exact
        hTracks.modifyNode
          EdgeOrchestrator.config_countFailure
          EdgeNode.status_countFailure counted
  | resetFailureCount reset =>
      apply hTracks.modifyNode
      · exact fun _ => rfl
      · exact fun _ => rfl
  | findBestNode regionPreference => exact hTracks
  | placeVm regionPreference => exact hTracks

/- A node is a candidate when it is open again. -/
omit [BuildProfile] in
theorem isCandidate_iff_reopened
    {node : EdgeNode}
    (hNode :
      book.orchestrator.nodes.lookup nodeId = some node)
    (hHealthy :
      node.status = .healthy ↔
        ∃ health,
          book.latest = some health ∧ ¬ health.IsOverloaded)
    (regionPreference : Option String) :
    EdgeOrchestrator.isCandidate regionPreference node =
        true ↔
      Reopened nodeId book regionPreference node := by
  rw [EdgeOrchestrator.isCandidate_iff,
    EdgeOrchestrator.canAccept_iff, hHealthy]
  constructor
  · rintro ⟨⟨hReported, hRoom⟩, hRegion⟩
    exact ⟨hNode, hReported, hRoom, hRegion⟩
  · intro hOpen
    exact ⟨⟨hOpen.reported, hOpen.room⟩, hOpen.region⟩

/- A call spares a node exactly when it is outranked. -/
omit [BuildProfile] in
theorem Tracks.outranked_iff
    (hTracks : Tracks nodeId book)
    (call : WorkCall) :
    NotReturned nodeId book call ↔
      Outranked nodeId book call := by
  rcases hTracks.stored with ⟨node, hNode, hHealthy⟩
  cases hAsks : call.asksWith with
  | none =>
      refine iff_of_true ?_ ?_
      · cases call with
        | findBestNode _ => cases hAsks
        | placeVm _ => cases hAsks
        | _ => trivial
      · intro regionPreference _ hSome
        rw [hAsks] at hSome
        cases hSome
  | some regionPreference =>
      have hOpen :=
        isCandidate_iff_reopened hNode hHealthy
          regionPreference
      unfold NotReturned
      rw [EdgeOrchestrator.spares_iff hTracks.keyed hNode
          hAsks,
        EdgeOrchestrator.exists_isBest_iff hTracks.keyed
          hNode, hOpen]
      constructor
      · intro hNot preferred stored hPreferred hReopened
        rw [hAsks] at hPreferred
        cases hPreferred
        have hStored := hReopened.stored
        rw [hNode] at hStored
        cases hStored
        by_contra hUnranked
        apply hNot
        refine ⟨hReopened, ?_⟩
        intro otherId other hNe hOther hCandidate
        by_contra hBelow
        exact
          hUnranked
            ⟨otherId, other, hNe, hOther, hCandidate,
              Bool.eq_false_of_not_eq_true hBelow⟩
      · rintro hOutranked ⟨hReopened, hAbove⟩
        rcases hOutranked _ _ hAsks hReopened with
          ⟨otherId, other, hNe, hOther, hCandidate, hHigher⟩
        rw [hAbove otherId other hNe hOther hCandidate]
          at hHigher
        cases hHigher

------------------------------------------------------------
-- Runs
------------------------------------------------------------

omit [BuildProfile] in
/- A node that is registered as draining is not open. -/
theorem tracks_start
    {orchestrator : EdgeOrchestrator}
    {node : EdgeNode}
    (hKeyed : orchestrator.KeyedByNodeId)
    (hDraining : node.status = .draining) :
    Tracks node.config.nodeId
      (start (orchestrator.registerNode node)) := by
  refine
    ⟨EdgeOrchestrator.keyedByNodeId_step orchestrator
      (.register node) hKeyed, node, ?_, ?_⟩
  · exact Finmap.lookup_insert _
  · rw [hDraining]
    refine iff_of_false nofun ?_
    rintro ⟨_, hNone, _⟩
    cases hNone

/-
  A draining node gets no new work in a run exactly when
  each call for a node finds it outranked once a report has
  opened it.
-/
theorem notReturned_iff
    (history : List NodeCall)
    (node : EdgeNode)
    (calls : List WorkCall)
    (hDraining : node.status = .draining) :
    Runs.AlongRun (step node.config.nodeId)
        (NotReturned node.config.nodeId)
        (start
          ((EdgeOrchestrator.reached history).registerNode
            node))
        calls ↔
      Runs.AlongRun (step node.config.nodeId)
        (Outranked node.config.nodeId)
        (start
          ((EdgeOrchestrator.reached history).registerNode
            node))
        calls := by
  have hStart :=
    tracks_start
      (EdgeOrchestrator.keyedByNodeId_reached history)
      hDraining
  constructor
  · apply Runs.alongRun_of_invariant _ _ hStart
    · exact fun book call hTracks _ =>
        tracks_step book call hTracks
    · exact fun book call hTracks hReturned =>
        (hTracks.outranked_iff call).mp hReturned
  · apply Runs.alongRun_of_invariant _ _ hStart
    · exact fun book call hTracks _ =>
        tracks_step book call hTracks
    · exact fun book call hTracks hOutranked =>
        (hTracks.outranked_iff call).mpr hOutranked

/- A node is spared while its reports find it overloaded. -/
theorem notReturned_of_overloaded
    (hTracks : Tracks nodeId book)
    (hUnreported : book.latest = none)
    {calls : List WorkCall}
    (hReports :
      ∀ now health,
        .updateNodeHealth now nodeId health ∈ calls →
          health.IsOverloaded) :
    Runs.AlongRun (step nodeId) (NotReturned nodeId) book
      calls := by
  let Closed : DrainBook → Prop := fun book =>
    Tracks nodeId book ∧
      ∀ health, book.latest = some health →
        health.IsOverloaded
  let Overloads : DrainBook → WorkCall → Prop :=
    fun _ call =>
      ∀ now health,
        call = .updateNodeHealth now nodeId health →
          health.IsOverloaded
  have hClosed : Closed book := by
    refine ⟨hTracks, ?_⟩
    intro health hSome
    rw [hUnreported] at hSome
    cases hSome
  have hAlong :
      Runs.AlongRun (step nodeId) Overloads book calls := by
    apply Runs.alongRun_of_forall_mem
    intro call hCall _ now health hReport
    exact hReports now health (hReport ▸ hCall)
  apply Runs.alongRun_of_invariant _ _ hClosed hAlong
  · rintro book call ⟨hTracks, hLatest⟩ hOverloads
    refine ⟨tracks_step book call hTracks, ?_⟩
    intro health hSome
    cases call with
    | updateNodeHealth now reported reportedHealth =>
        by_cases hSame : reported = nodeId
        · subst hSame
          apply hOverloads now health
          have hNew :
              (book.step reported
                  (.updateNodeHealth now reported
                    reportedHealth)).latest =
                some reportedHealth :=
            if_pos rfl
          rw [hNew] at hSome
          cases hSome
          rfl
        · apply hLatest health
          exact (if_neg hSame).symm.trans hSome
    | _ => exact hLatest health hSome
  · rintro book call ⟨hTracks, hLatest⟩ _
    apply (hTracks.outranked_iff call).mpr
    rintro _ node _ hReopened
    rcases hReopened.reported with ⟨health, hSome, hFine⟩
    exact absurd (hLatest health hSome) hFine

end DrainBook

end IsaWorkspace

namespace IsaWorkspace

namespace DrainBook

/- A node that is registered as draining. -/
def drainingNode : EdgeNode :=
  { EdgeNode.createTestNode "node-1" "us-west-2" 10 with
    status := .draining }

def drainingStart : DrainBook :=
  start
    ((@EdgeOrchestrator.reached ⟨true⟩ []).registerNode
      drainingNode)

/- A report without overload. -/
def sampleHealth : NodeHealth where
  currentVms := 2
  availableMemoryMb := 4096
  cpuUtilization := F32.ofRat (1 / 2)

/- No report has come when work is asked for. -/
theorem notReturned_unreported :
    Runs.AlongRun (@step ⟨true⟩ "node-1")
      (NotReturned "node-1") drainingStart
      [.findBestNode none, .placeVm (some "us-west-2")] := by
  apply
    (@notReturned_iff ⟨true⟩ [] drainingNode _ rfl).mpr
  refine ⟨?_, ?_, trivial⟩
  · rintro _ _ _ ⟨_, ⟨_, hNone, _⟩, _⟩
    cases hNone
  · rintro _ _ _ ⟨_, ⟨_, hNone, _⟩, _⟩
    cases hNone

/- After a report the draining node is the best one. -/
theorem notReturned_reported :
    ¬ Runs.AlongRun (@step ⟨true⟩ "node-1")
      (NotReturned "node-1") drainingStart
      [.updateNodeHealth .unixEpoch "node-1" sampleHealth,
        .findBestNode none] := by
  rintro ⟨_, hReturned, _⟩
  have hTracks :=
    @tracks_step ⟨true⟩ "node-1" _
      (.updateNodeHealth .unixEpoch "node-1" sampleHealth)
      (tracks_start
        (@EdgeOrchestrator.keyedByNodeId_reached ⟨true⟩ [])
        (rfl : drainingNode.status = .draining))
  have hReopened :
      Reopened "node-1"
        (@step ⟨true⟩ "node-1" drainingStart
          (.updateNodeHealth .unixEpoch "node-1"
            sampleHealth))
        none
        (drainingNode.updateHealth .unixEpoch
          sampleHealth) := by
    refine
      ⟨by decide +kernel, ⟨sampleHealth, rfl, ?_⟩,
        by decide +kernel, nofun⟩
    decide +kernel
  have hOutranked :=
    (hTracks.outranked_iff (.findBestNode none)).mp hReturned
  rcases hOutranked none _ rfl hReopened with
    ⟨otherId, other, hNe, hOther, _⟩
  change
    ((drainingStart.orchestrator.modifyNode "node-1"
      _).nodes.lookup otherId) = some other at hOther
  rw [EdgeOrchestrator.lookup_modifyNode, if_neg hNe]
    at hOther
  unfold drainingStart start at hOther
  rw [EdgeOrchestrator.lookup_registerNode] at hOther
  rw [if_neg (show otherId ≠ drainingNode.config.nodeId
    from hNe)] at hOther
  cases hOther

end DrainBook

end IsaWorkspace
