import IsaWorkspace.Foundations.Runs
import IsaWorkspace.Orchestration.Nodes

/-
  The VM count and the status of a node over its checks.

  Failed checks are counted in the last digit of the number
  of VMs, so that each of them changes that number, and so
  does a reset unless the digit is zero.  A report never
  makes a node unhealthy, since what is critical is degraded
  before it is tested for.

  Main declarations:
    * `EdgeNode.countFailure`, `checkedAddU32_count`
    * `EdgeOrchestrator.lookup_modifyNode`
    * `HealthOutcome`, `HealthOutcome.run`
    * `HealthLedger`, `HealthBook`
    * `HealthBook.Accounted`
    * `HealthBook.KeepsAccount`
    * `HealthBook.accounted_iff`
-/

------------------------------------------------------------
-- Changes of a Node
------------------------------------------------------------

namespace IsaWorkspace

/- The build panics on one failure more. -/
def CountPanics
    [BuildProfile]
    (currentVms : UInt32) : Prop :=
  BuildProfile.overflowChecks = true ∧
    currentVms.toNat + 1 = 2 ^ 32

instance
    [BuildProfile]
    (currentVms : UInt32) :
    Decidable (CountPanics currentVms) :=
  inferInstanceAs (Decidable (_ ∧ _))

/- The count of failures is one digit of the number of VMs. -/
theorem failureCount_digit
    (currentVms : UInt32) :
    currentVms / 10 * 10 + (currentVms % 10 + 1) =
      currentVms + 1 := by
  apply UInt32.toNat_inj.mp
  have hSplit := Nat.div_add_mod currentVms.toNat 10
  simp only [UInt32.toNat_add, UInt32.toNat_mul,
    UInt32.toNat_div, UInt32.toNat_mod, UInt32.reduceToNat]
  omega

/- Counting a failure adds one to the number of VMs. -/
theorem checkedAddU32_count
    [BuildProfile]
    (currentVms : UInt32) :
    checkedAddU32 (currentVms / 10 * 10)
        (currentVms % 10 + 1) =
      if CountPanics currentVms then none
      else some (currentVms + 1) := by
  have hSum :
      (currentVms / 10 * 10).toNat +
          (currentVms % 10 + 1).toNat =
        currentVms.toNat + 1 := by
    have hSplit := Nat.div_add_mod currentVms.toNat 10
    have hBound := currentVms.toNat_lt
    simp only [UInt32.toNat_add, UInt32.toNat_mul,
      UInt32.toNat_div, UInt32.toNat_mod,
      UInt32.reduceToNat]
    omega
  have hBound := currentVms.toNat_lt
  unfold checkedAddU32
  rw [hSum, failureCount_digit]
  by_cases hRange : currentVms.toNat + 1 < 2 ^ 32
  · rw [if_pos hRange, if_neg]
    rintro ⟨_, hMost⟩
    omega
  · have hMost : currentVms.toNat + 1 = 2 ^ 32 := by omega
    rw [if_neg hRange]
    by_cases hChecks : BuildProfile.overflowChecks = true
    · rw [if_pos hChecks, if_pos ⟨hChecks, hMost⟩]
    · rw [if_neg hChecks, if_neg]
      exact fun hPanics => hChecks hPanics.1

/- A node after one failure more; a panic changes nothing. -/
def EdgeNode.countFailure
    [BuildProfile]
    (node : EdgeNode) : EdgeNode :=
  if CountPanics node.currentVms then node
  else { node with currentVms := node.currentVms + 1 }

namespace EdgeOrchestrator

/- A change of one node leaves the others alone. -/
theorem lookup_modifyNode
    (orchestrator : EdgeOrchestrator)
    (nodeId other : String)
    (change : EdgeNode → EdgeNode) :
    (orchestrator.modifyNode nodeId change).nodes.lookup
        other =
      if other = nodeId then
        (orchestrator.nodes.lookup other).map change
      else
        orchestrator.nodes.lookup other := by
  unfold modifyNode
  cases hNode : orchestrator.nodes.lookup nodeId with
  | none =>
      dsimp only
      split
      · next hOther => rw [hOther, hNode, Option.map_none]
      · rfl
  | some node =>
      dsimp only
      rw [HashMap.lookup_insert_eq_ite]
      split
      · next hOther => rw [hOther, hNode, Option.map_some]
      · rfl

/- Counting a failure returns the digit and changes a node. -/
theorem incrementFailureCount_eq
    [BuildProfile]
    (orchestrator : EdgeOrchestrator)
    (nodeId : String) :
    orchestrator.incrementFailureCount nodeId =
      (match orchestrator.nodes.lookup nodeId with
        | none => some 0
        | some node =>
            if CountPanics node.currentVms then none
            else some (node.currentVms % 10 + 1),
        orchestrator.modifyNode nodeId
          EdgeNode.countFailure) := by
  unfold incrementFailureCount modifyNode
  cases hNode : orchestrator.nodes.lookup nodeId with
  | none => rfl
  | some node =>
      dsimp only
      rw [checkedAddU32_count]
      by_cases hPanics : CountPanics node.currentVms
      · have hSame : node.countFailure = node :=
          if_pos hPanics
        rw [if_pos hPanics, if_pos hPanics, hSame,
          HashMap.insert_lookup hNode]
      · have hCounted :
            node.countFailure =
              { node with
                currentVms := node.currentVms + 1 } :=
          if_neg hPanics
        rw [if_neg hPanics, if_neg hPanics, hCounted]

end EdgeOrchestrator

end IsaWorkspace

------------------------------------------------------------
-- Outcomes of Checks
------------------------------------------------------------

namespace IsaWorkspace

/- What a health check of a node can come to. -/
inductive HealthOutcome where
  | report
      (now : DateTime) (nodeId : String)
      (health : NodeHealth)
  | failed (nodeId : String)
  | reset (nodeId : String)

namespace EdgeOrchestrator

/- A failed check: the third one marks the node. -/
def failCheck
    [BuildProfile]
    (orchestrator : EdgeOrchestrator)
    (nodeId : String) : EdgeOrchestrator :=
  let counted := orchestrator.incrementFailureCount nodeId
  match counted.1 with
  | none => counted.2
  | some failureCount =>
      if 3 ≤ failureCount then
        counted.2.markNodeUnhealthy nodeId
      else
        counted.2

end EdgeOrchestrator

namespace HealthOutcome

def nodeId : HealthOutcome → String
| .report _ nodeId _ => nodeId
| .failed nodeId => nodeId
| .reset nodeId => nodeId

def run
    [BuildProfile]
    (orchestrator : EdgeOrchestrator) :
    HealthOutcome → EdgeOrchestrator
| .report now nodeId health =>
    orchestrator.updateNodeHealth now nodeId health
| .failed nodeId => orchestrator.failCheck nodeId
| .reset nodeId => orchestrator.resetFailureCount nodeId

end HealthOutcome

/- The load or the memory that is left is critical. -/
def NodeHealth.IsCritical
    (health : NodeHealth) : Prop :=
  (F32.ofRat (95 / 100)).lt health.cpuUtilization = true ∨
    health.availableMemoryMb < 256

instance
    (health : NodeHealth) :
    Decidable health.IsCritical :=
  inferInstanceAs (Decidable (_ ∨ _))

/-
  What is known of a node: the VMs of its latest report or
  of its registration, whether the report was critical, and
  the checks failed since that or since a reset.
-/
structure HealthLedger where
  reported : UInt32
  critical : Bool
  failures : Nat
deriving DecidableEq

def HealthLedger.after
    (ledger : HealthLedger) : HealthOutcome → HealthLedger
| .report _ _ health =>
    { reported := health.currentVms
      critical := decide health.IsCritical
      failures := 0 }
| .failed _ =>
    { ledger with failures := ledger.failures + 1 }
| .reset _ => { ledger with failures := 0 }

/- An orchestrator and what is known of one of its nodes. -/
structure HealthBook where
  orchestrator : EdgeOrchestrator
  ledger : HealthLedger

namespace HealthBook

/- Nothing has been checked since the registration. -/
def start
    (orchestrator : EdgeOrchestrator)
    (node : EdgeNode) : HealthBook where
  orchestrator := orchestrator
  ledger :=
    { reported := node.currentVms
      critical := false
      failures := 0 }

variable [BuildProfile]

/- The outcome of a check of this or of another node. -/
def step
    (nodeId : String)
    (book : HealthBook)
    (outcome : HealthOutcome) : HealthBook where
  orchestrator := outcome.run book.orchestrator
  ledger :=
    if outcome.nodeId = nodeId then
      book.ledger.after outcome
    else
      book.ledger

/-
  The VMs of the node are the reported ones, and it is
  unhealthy exactly after a critical report or after three
  failures.
-/
omit [BuildProfile] in
def Accounted
    (nodeId : String)
    (book : HealthBook) : Prop :=
  ∃ node,
    book.orchestrator.nodes.lookup nodeId = some node ∧
      node.currentVms = book.ledger.reported ∧
      (node.status = .unhealthy ↔
        book.ledger.critical = true ∨
          3 ≤ book.ledger.failures)

/-
  Of the node, no critical report comes, it is reset only at
  a number of VMs that ends in zero, and no check fails but
  the first two that panic as they are counted.
-/
def KeepsAccount
    (nodeId : String)
    (book : HealthBook)
    (outcome : HealthOutcome) : Prop :=
  outcome.nodeId = nodeId →
    match outcome with
    | .report _ _ health => ¬ health.IsCritical
    | .failed _ =>
        CountPanics book.ledger.reported ∧
          book.ledger.failures < 2
    | .reset _ => book.ledger.reported % 10 = 0

/- An account by which the node has not become unhealthy. -/
structure Sound
    (nodeId : String)
    (book : HealthBook)
    (node : EdgeNode) : Prop where
  stored :
    book.orchestrator.nodes.lookup nodeId = some node
  currentVms : node.currentVms = book.ledger.reported
  status : node.status ≠ .unhealthy
  critical : book.ledger.critical = false
  failures : book.ledger.failures < 3

end HealthBook

end IsaWorkspace

------------------------------------------------------------
-- One Outcome
------------------------------------------------------------

namespace IsaWorkspace

/- What is critical is degraded already. -/
theorem degraded_of_isCritical
    {health : NodeHealth}
    (hCritical : health.IsCritical) :
    (F32.ofRat (9 / 10)).lt health.cpuUtilization = true ∨
      health.availableMemoryMb < 512 := by
  rcases hCritical with hCpu | hMemory
  · left
    have hBelow :
        (F32.ofRat (9 / 10)).lt (F32.ofRat (95 / 100)) =
          true := by
      decide +kernel
    unfold F32.lt at hCpu
    rw [Bool.and_eq_true] at hCpu
    exact F32.lt_of_lt_of_le hBelow hCpu.1
  · right
    exact UInt32.lt_trans hMemory (by decide)

/- So no report makes a node unhealthy. -/
theorem EdgeNode.updateHealth_status_ne
    (now : DateTime)
    (health : NodeHealth)
    (node : EdgeNode) :
    (node.updateHealth now health).status ≠ .unhealthy := by
  unfold EdgeNode.updateHealth
  dsimp only
  split
  · nofun
  · next hDegraded =>
      split
      · next hCritical =>
          exact
            absurd (degraded_of_isCritical hCritical)
              hDegraded
      · nofun

namespace EdgeOrchestrator

variable [BuildProfile]
variable {orchestrator : EdgeOrchestrator}

/- A failed check of one node leaves the others alone. -/
theorem lookup_failCheck_of_ne
    {nodeId other : String}
    (hOther : other ≠ nodeId) :
    (orchestrator.failCheck nodeId).nodes.lookup other =
      orchestrator.nodes.lookup other := by
  unfold failCheck markNodeUnhealthy
  rw [incrementFailureCount_eq]
  dsimp only
  split
  · rw [lookup_modifyNode, if_neg hOther]
  · split
    · rw [lookup_modifyNode, if_neg hOther,
        lookup_modifyNode, if_neg hOther]
    · rw [lookup_modifyNode, if_neg hOther]

/- A failed check counts one VM more, unless it panics. -/
theorem lookup_failCheck
    {nodeId : String}
    {node : EdgeNode}
    (hNode : orchestrator.nodes.lookup nodeId = some node) :
    ∃ after,
      (orchestrator.failCheck nodeId).nodes.lookup nodeId =
          some after ∧
        if CountPanics node.currentVms then after = node
        else after.currentVms = node.currentVms + 1 := by
  have hCounted :
      (orchestrator.modifyNode nodeId
          EdgeNode.countFailure).nodes.lookup nodeId =
        some node.countFailure := by
    rw [lookup_modifyNode, if_pos rfl, hNode,
      Option.map_some]
  unfold failCheck markNodeUnhealthy
  rw [incrementFailureCount_eq, hNode]
  dsimp only
  by_cases hPanics : CountPanics node.currentVms
  · rw [if_pos hPanics]
    refine ⟨node.countFailure, hCounted, ?_⟩
    rw [if_pos hPanics]
    exact if_pos hPanics
  · rw [if_neg hPanics]
    dsimp only
    have hVms :
        node.countFailure.currentVms =
          node.currentVms + 1 := by
      unfold EdgeNode.countFailure
      rw [if_neg hPanics]
    split
    · refine
        ⟨{ node.countFailure with status := .unhealthy },
          ?_, ?_⟩
      · rw [lookup_modifyNode, if_pos rfl, hCounted,
          Option.map_some]
      · exact hVms
    · exact ⟨node.countFailure, hCounted, hVms⟩

end EdgeOrchestrator

namespace HealthBook

variable [BuildProfile]
variable {nodeId : String} {book : HealthBook}
variable {node : EdgeNode} {outcome : HealthOutcome}

omit [BuildProfile] in
theorem Sound.accounted
    (hSound : Sound nodeId book node) :
    Accounted nodeId book := by
  refine
    ⟨node, hSound.stored, hSound.currentVms,
      iff_of_false hSound.status ?_⟩
  rintro (hCritical | hFailures)
  · rw [hSound.critical] at hCritical
    cases hCritical
  · exact absurd hSound.failures (not_lt.mpr hFailures)

/- An outcome for another node changes nothing of this one. -/
theorem sound_step_of_ne
    (hOther : outcome.nodeId ≠ nodeId)
    (hSound : Sound nodeId book node) :
    Sound nodeId (book.step nodeId outcome) node := by
  have hLookup :
      (outcome.run book.orchestrator).nodes.lookup nodeId =
        book.orchestrator.nodes.lookup nodeId := by
    have hNe : nodeId ≠ outcome.nodeId := Ne.symm hOther
    cases outcome with
    | report now other health =>
        exact
          (EdgeOrchestrator.lookup_modifyNode _ _ _ _).trans
            (if_neg hNe)
    | failed other =>
        exact EdgeOrchestrator.lookup_failCheck_of_ne hNe
    | reset other =>
        exact
          (EdgeOrchestrator.lookup_modifyNode _ _ _ _).trans
            (if_neg hNe)
  have hLedger :
      (book.step nodeId outcome).ledger = book.ledger :=
    if_neg hOther
  constructor
  · exact hLookup.trans hSound.stored
  · rw [hLedger]
    exact hSound.currentVms
  · exact hSound.status
  · rw [hLedger]
    exact hSound.critical
  · rw [hLedger]
    exact hSound.failures

/- A report keeps the account if it is not critical. -/
theorem report_step
    (now : DateTime)
    (health : NodeHealth)
    (hSound : Sound nodeId book node) :
    (Accounted nodeId
        (book.step nodeId (.report now nodeId health)) →
      ¬ health.IsCritical) ∧
      (¬ health.IsCritical →
        Sound nodeId
          (book.step nodeId (.report now nodeId health))
          (node.updateHealth now health)) := by
  have hLookup :
      (book.step nodeId
          (.report now nodeId health)).orchestrator.nodes.lookup
          nodeId =
        some (node.updateHealth now health) := by
    apply
      (EdgeOrchestrator.lookup_modifyNode _ _ _ _).trans
    rw [if_pos rfl, hSound.stored, Option.map_some]
  have hLedger :
      (book.step nodeId (.report now nodeId health)).ledger =
        { reported := health.currentVms
          critical := decide health.IsCritical
          failures := 0 } :=
    if_pos rfl
  have hStatus := node.updateHealth_status_ne now health
  constructor
  · rintro ⟨after, hAfter, _, hUnhealthy⟩ hCritical
    rw [hLookup] at hAfter
    cases hAfter
    apply hStatus
    apply hUnhealthy.mpr
    rw [hLedger]
    exact Or.inl (decide_eq_true hCritical)
  · intro hFine
    refine ⟨hLookup, ?_, hStatus, ?_, ?_⟩
    · rw [hLedger]
      rfl
    · rw [hLedger]
      exact decide_eq_false hFine
    · rw [hLedger]
      exact Nat.zero_lt_succ 2

/- A failed check keeps the account only if it panics. -/
theorem failed_step
    (hSound : Sound nodeId book node) :
    (Accounted nodeId (book.step nodeId (.failed nodeId)) →
      CountPanics book.ledger.reported ∧
        book.ledger.failures < 2) ∧
      (CountPanics book.ledger.reported ∧
          book.ledger.failures < 2 →
        Sound nodeId (book.step nodeId (.failed nodeId))
          node) := by
  rcases EdgeOrchestrator.lookup_failCheck hSound.stored with
    ⟨after, hLookup, hAfter⟩
  have hLedger :
      (book.step nodeId (.failed nodeId)).ledger =
        { book.ledger with
          failures := book.ledger.failures + 1 } :=
    if_pos rfl
  rw [hSound.currentVms] at hAfter
  constructor
  · rintro ⟨found, hFound, hVms, hUnhealthy⟩
    change
      (book.orchestrator.failCheck nodeId).nodes.lookup
        nodeId = some found at hFound
    rw [hLookup] at hFound
    cases hFound
    rw [hLedger] at hVms hUnhealthy
    by_cases hPanics : CountPanics book.ledger.reported
    · rw [if_pos hPanics] at hAfter
      subst hAfter
      refine ⟨hPanics, ?_⟩
      by_contra hMany
      apply hSound.status
      apply hUnhealthy.mpr
      right
      change 3 ≤ book.ledger.failures + 1
      omega
    · rw [if_neg hPanics] at hAfter
      rw [hAfter] at hVms
      change
        book.ledger.reported + 1 = book.ledger.reported
        at hVms
      have hNat := congrArg UInt32.toNat hVms
      have hBound := book.ledger.reported.toNat_lt
      rw [UInt32.toNat_add, UInt32.toNat_one] at hNat
      omega
  · rintro ⟨hPanics, hFew⟩
    rw [if_pos hPanics] at hAfter
    subst hAfter
    refine ⟨hLookup, ?_, hSound.status, ?_, ?_⟩
    · rw [hLedger]
      exact hSound.currentVms
    · rw [hLedger]
      exact hSound.critical
    · rw [hLedger]
      exact Nat.succ_lt_succ hFew

/- A reset keeps the account if there is no last digit. -/
theorem reset_step
    (hSound : Sound nodeId book node) :
    (Accounted nodeId (book.step nodeId (.reset nodeId)) →
      book.ledger.reported % 10 = 0) ∧
      (book.ledger.reported % 10 = 0 →
        Sound nodeId (book.step nodeId (.reset nodeId))
          { node with
            currentVms := node.currentVms / 10 * 10 }) := by
  have hLookup :
      (book.step nodeId
          (.reset nodeId)).orchestrator.nodes.lookup nodeId =
        some
          { node with
            currentVms := node.currentVms / 10 * 10 } := by
    apply
      (EdgeOrchestrator.lookup_modifyNode _ _ _ _).trans
    rw [if_pos rfl, hSound.stored, Option.map_some]
  have hLedger :
      (book.step nodeId (.reset nodeId)).ledger =
        { book.ledger with failures := 0 } :=
    if_pos rfl
  have hDigit :
      book.ledger.reported / 10 * 10 =
          book.ledger.reported ↔
        book.ledger.reported % 10 = 0 := by
    have hSplit :=
      Nat.div_add_mod book.ledger.reported.toNat 10
    have hBound := book.ledger.reported.toNat_lt
    rw [← UInt32.toNat_inj, ← UInt32.toNat_inj]
    simp only [UInt32.toNat_mul, UInt32.toNat_div,
      UInt32.toNat_mod, UInt32.reduceToNat]
    omega
  constructor
  · rintro ⟨after, hAfter, hVms, _⟩
    rw [hLookup] at hAfter
    cases hAfter
    rw [hLedger] at hVms
    change
      node.currentVms / 10 * 10 = book.ledger.reported at hVms
    rw [hSound.currentVms] at hVms
    exact hDigit.mp hVms
  · intro hZero
    refine ⟨hLookup, ?_, hSound.status, ?_, ?_⟩
    · rw [hLedger]
      change
        node.currentVms / 10 * 10 = book.ledger.reported
      rw [hSound.currentVms]
      exact hDigit.mpr hZero
    · rw [hLedger]
      exact hSound.critical
    · rw [hLedger]
      exact Nat.zero_lt_succ 2

/- The condition decides whether an outcome keeps account. -/
theorem accounted_step
    (outcome : HealthOutcome)
    (hSound : Sound nodeId book node) :
    (Accounted nodeId (book.step nodeId outcome) →
      book.KeepsAccount nodeId outcome) ∧
      (book.KeepsAccount nodeId outcome →
        ∃ after,
          Sound nodeId (book.step nodeId outcome) after) := by
  by_cases hNode : outcome.nodeId = nodeId
  · cases outcome with
    | report now other health =>
        cases hNode
        have hReport := report_step now health hSound
        exact
          ⟨fun hAfter _ => hReport.1 hAfter,
            fun hKeeps => ⟨_, hReport.2 (hKeeps rfl)⟩⟩
    | failed other =>
        cases hNode
        have hFailed := failed_step hSound
        exact
          ⟨fun hAfter _ => hFailed.1 hAfter,
            fun hKeeps => ⟨_, hFailed.2 (hKeeps rfl)⟩⟩
    | reset other =>
        cases hNode
        have hReset := reset_step hSound
        exact
          ⟨fun hAfter _ => hReset.1 hAfter,
            fun hKeeps => ⟨_, hReset.2 (hKeeps rfl)⟩⟩
  · exact
      ⟨fun _ hSame => absurd hSame hNode,
        fun _ => ⟨node, sound_step_of_ne hNode hSound⟩⟩

------------------------------------------------------------
-- Runs
------------------------------------------------------------

/-
  The account of a node is kept throughout a run exactly
  when the node is not registered as unhealthy and each
  outcome keeps it.
-/
theorem accounted_iff
    (orchestrator : EdgeOrchestrator)
    (nodeId : String)
    (node : EdgeNode)
    (outcomes : List HealthOutcome)
    (hNode :
      orchestrator.nodes.lookup nodeId = some node) :
    Runs.Throughout (step nodeId) (Accounted nodeId)
        (start orchestrator node) outcomes ↔
      node.status ≠ .unhealthy ∧
        Runs.AlongRun (step nodeId) (KeepsAccount nodeId)
          (start orchestrator node) outcomes := by
  by_cases hStatus : node.status = .unhealthy
  · refine iff_of_false ?_ fun hBoth => hBoth.1 hStatus
    intro hRun
    rcases hRun.start with ⟨found, hFound, _, hUnhealthy⟩
    change
      orchestrator.nodes.lookup nodeId = some found
      at hFound
    rw [hNode] at hFound
    cases hFound
    rcases hUnhealthy.mp hStatus with hCritical | hFailures
    · cases hCritical
    · exact absurd hFailures (Nat.not_succ_le_zero 2)
  · have hStart :
        Sound nodeId (start orchestrator node) node :=
      ⟨hNode, rfl, hStatus, rfl, Nat.zero_lt_succ 2⟩
    have hStronger :
        ∀ book, (∃ node, Sound nodeId book node) →
          Accounted nodeId book := by
      rintro book ⟨_, hSound⟩
      exact hSound.accounted
    have hNeeds :
        ∀ book outcome, (∃ node, Sound nodeId book node) →
          Accounted nodeId (book.step nodeId outcome) →
            book.KeepsAccount nodeId outcome := by
      rintro book outcome ⟨_, hSound⟩
      exact (accounted_step outcome hSound).1
    have hKeeps :
        ∀ book outcome, (∃ node, Sound nodeId book node) →
          book.KeepsAccount nodeId outcome →
            ∃ node,
              Sound nodeId (book.step nodeId outcome)
                node := by
      rintro book outcome ⟨_, hSound⟩
      exact (accounted_step outcome hSound).2
    refine Iff.trans ?_ (and_iff_right hStatus).symm
    exact
      Runs.throughout_iff_alongRun_of_stronger
        hStronger hNeeds hKeeps ⟨node, hStart⟩

end HealthBook

end IsaWorkspace

namespace IsaWorkspace

namespace HealthBook

/- A report of some VMs on a node with half its load. -/
def sampleReport
    (currentVms : UInt32) : HealthOutcome :=
  .report .unixEpoch "node-1"
    { currentVms := currentVms
      availableMemoryMb := 4096
      cpuUtilization := F32.ofRat (1 / 2) }

/- Reports, and a reset at a number that ends in zero. -/
theorem accounted_reports :
    Runs.Throughout (@step ⟨true⟩ "node-1")
      (Accounted "node-1")
      (start
        (EdgeOrchestrator.new.registerNode
          (.createTestNode "node-1" "us-west-2" 10))
        (.createTestNode "node-1" "us-west-2" 10))
      [sampleReport 5, sampleReport 10,
        .reset "node-1"] := by
  apply
    (@accounted_iff ⟨true⟩ _ "node-1"
      (.createTestNode "node-1" "us-west-2" 10) _
      (by decide +kernel)).mpr
  have hFine :
      ∀ currentVms,
        ¬ NodeHealth.IsCritical
          { currentVms := currentVms
            availableMemoryMb := 4096
            cpuUtilization := F32.ofRat (1 / 2) } := by
    intro currentVms
    change
      ¬ ((F32.ofRat (95 / 100)).lt (F32.ofRat (1 / 2)) =
          true ∨
        (4096 : UInt32) < 256)
    decide +kernel
  exact
    ⟨nofun, fun _ => hFine 5, fun _ => hFine 10, fun _ => rfl,
      trivial⟩

/- After one failed check, five VMs are counted as six. -/
theorem accounted_oneFailure :
    ¬ Runs.Throughout (@step ⟨true⟩ "node-1")
      (Accounted "node-1")
      (start
        (EdgeOrchestrator.new.registerNode
          (.createTestNode "node-1" "us-west-2" 10))
        (.createTestNode "node-1" "us-west-2" 10))
      [sampleReport 5, .failed "node-1"] := by
  intro hRun
  rcases hRun.last with ⟨node, hNode, hVms, _⟩
  have hCounted :
      ((Runs.run (@step ⟨true⟩ "node-1")
            (start
              (EdgeOrchestrator.new.registerNode
                (.createTestNode "node-1" "us-west-2" 10))
              (.createTestNode "node-1" "us-west-2" 10))
            [sampleReport 5,
              .failed
                "node-1"]).orchestrator.nodes.lookup
          "node-1").map EdgeNode.currentVms =
        some 6 := by
    decide +kernel
  rw [hNode, Option.map_some, hVms] at hCounted
  revert hCounted
  decide +kernel

end HealthBook

end IsaWorkspace
