import IsaWorkspace.Firecracker.VmProcesses

/-
  Processes that no VM of a manager answers for.

  A process is held by the registered VM, or by the call
  that has started it.  It is an orphan when it runs and
  nothing holds it: no later call can stop it.  Orphans come
  from starts that time out, from kills that fail and from
  VMs that replace others under their id, and from nothing
  else, in whatever order calls go on and processes exit.

  Main declarations:
    * `VmProcess.held`, `VmProcess.NoOrphans`
    * `VmProcess.FreshSpawn`, `VmProcess.KeepsHold`
    * `VmProcess.WellHeld`
    * `VmProcess.getVmStatus_run`
    * `VmProcess.noOrphans_iff`
-/

------------------------------------------------------------
-- Weights of Maps
------------------------------------------------------------

namespace IsaWorkspace

/- A map weighs its other entries and the one at a key. -/
theorem HashMap.weight_of_lookup_some
    {K V : Type}
    [DecidableEq K]
    (size : V → Nat)
    {map : HashMap K V}
    {key : K}
    {value : V}
    (hLookup : map.lookup key = some value) :
    weight size map =
      weight size (map.erase key) + size value := by
  have hSame : map.insert key value = map := by
    apply Finmap.ext_lookup
    intro other
    rw [lookup_insert_eq_ite]
    split
    · next hKey => rw [hKey, hLookup]
    · rfl
  rw [← weight_insert, hSame]

namespace VmProcess

------------------------------------------------------------
-- Starts and Stops
------------------------------------------------------------

/- The process of a start, if it comes to spawn one. -/
def StartAnswers.spawned
    (answers : StartAnswers)
    (vmId : String) : Option Pid :=
  if answers.createDir.isNone ∧
      (FirecrackerVM.hostDevName vmId).isSome ∧
      answers.serialize.isNone ∧
      answers.writeConfig.isNone then
    answers.spawn.toOption
  else
    none

/- A VM that runs, as it sees itself. -/
def FirecrackerVM.Runs
    (vm : FirecrackerVM) : Prop :=
  vm.status = .running ∧ ∃ pid, vm.child = some pid

namespace FirecrackerVM

variable [PathDebug]

/- What a start leaves, by the process it spawns. -/
theorem start_apply
    (answers : StartAnswers)
    (host : VmHost) :
    match answers.spawned host.vm.vmId with
    | none =>
        (start answers host).1 ≠ .ok () ∧
          (start answers host).2 = host
    | some pid =>
        (start answers host).2.live = pid :: host.live ∧
          if answers.socketReady then
            (start answers host).1 = .ok () ∧
              (start answers host).2.vm =
                { host.vm with
                  child := some pid
                  status := .running }
          else
            (start answers host).1 ≠ .ok () := by
  rcases answers with
    ⟨createDir, serialize, writeConfig, spawn, socketReady⟩
  unfold StartAnswers.spawned start
  rw [Exec.read_bind_apply]
  cases createDir with
  | some error =>
      refine ⟨?_, rfl⟩
      intro hOk
      cases hOk
  | none =>
      cases hostDevName host.vm.vmId with
      | none =>
          refine ⟨?_, rfl⟩
          intro hOk
          cases hOk
      | some device =>
          cases serialize with
          | some error =>
              refine ⟨?_, rfl⟩
              intro hOk
              cases hOk
          | none =>
              cases writeConfig with
              | some error =>
                  refine ⟨?_, rfl⟩
                  intro hOk
                  cases hOk
              | none =>
                  cases spawn with
                  | error error =>
                      refine ⟨?_, rfl⟩
                      intro hOk
                      cases hOk
                  | ok pid =>
                      refine ⟨?_, ?_⟩
                      · cases socketReady with
                        | false => rfl
                        | true => rfl
                      · cases socketReady with
                        | false =>
                            intro hOk
                            cases hOk
                        | true => exact ⟨rfl, rfl⟩

omit [PathDebug] in
/- What a stop leaves of the processes. -/
theorem stop_live
    (kill : Option String)
    (host : VmHost) :
    (stop kill host).2.live =
      match host.vm.child, kill with
      | some pid, none =>
          host.live.filter fun other => decide (other ≠ pid)
      | _, _ => host.live := by
  rcases host with
    ⟨⟨vmId, config, socketPath, pidFile, stateDir, child,
        status⟩, live⟩
  cases child with
  | none => rfl
  | some pid =>
      cases kill with
      | none => rfl
      | some error => rfl

end FirecrackerVM

/- What a call has left once its VM has been started. -/
theorem startNew_apply
    [PathDebug]
    (vmId : String)
    (answers : StartAnswers)
    (host : ManagerHost) :
    match answers.spawned vmId with
    | none =>
        (startNew vmId answers host).2 = host ∧
          ∃ outcome,
            (startNew vmId answers host).1 =
              .created outcome
    | some pid =>
        (startNew vmId answers host).2 =
            { host with live := pid :: host.live } ∧
          if answers.socketReady then
            ∃ vm : FirecrackerVM,
              (startNew vmId answers host).1 = .started vm ∧
                vm.status = .running ∧
                vm.child = some pid
          else
            ∃ outcome,
              (startNew vmId answers host).1 =
                .created outcome := by
  have hStart :=
    FirecrackerVM.start_apply answers
      ⟨FirecrackerVM.new vmId host.manager.defaultConfig,
        host.live⟩
  have hId :
      (FirecrackerVM.new vmId
          host.manager.defaultConfig).vmId =
        vmId := rfl
  dsimp only at hStart
  rw [hId] at hStart
  unfold startNew
  dsimp only
  rcases hResult :
      FirecrackerVM.start answers
        ⟨FirecrackerVM.new vmId host.manager.defaultConfig,
          host.live⟩ with
    ⟨outcome, after⟩
  rw [hResult] at hStart
  cases hSpawned : answers.spawned vmId with
  | none =>
      rw [hSpawned] at hStart
      rcases hStart with ⟨hNotOk, rfl⟩
      cases outcome with
      | ok value => exact absurd rfl hNotOk
      | err error => exact ⟨rfl, _, rfl⟩
      | panicked => exact ⟨rfl, _, rfl⟩
  | some pid =>
      rw [hSpawned] at hStart
      rcases hStart with ⟨hLive, hReady⟩
      dsimp only at hLive hReady ⊢
      cases hSocket : answers.socketReady with
      | false =>
          rw [hSocket] at hReady
          cases outcome with
          | ok value => exact absurd rfl hReady
          | err error =>
              refine ⟨?_, _, rfl⟩
              dsimp only
              rw [hLive]
          | panicked =>
              refine ⟨?_, _, rfl⟩
              dsimp only
              rw [hLive]
      | true =>
          rw [hSocket] at hReady
          rcases hReady with ⟨rfl, hVm⟩
          dsimp only
          refine ⟨by rw [hLive], after.vm, rfl, ?_, ?_⟩
          · rw [hVm]
          · rw [hVm]

------------------------------------------------------------
-- Held Processes
------------------------------------------------------------

/- Whether a VM holds a process. -/
def FirecrackerVM.holds
    (vm : FirecrackerVM)
    (pid : Pid) : Bool :=
  decide (vm.child = some pid)

/- Whether a call holds a process. -/
def VmCall.holds
    (pid : Pid) : VmCall → Bool
| .started vm => vm.holds pid
| _ => false

/- How many hold a process, among VMs and calls. -/
def heldBy
    (host : ManagerHost)
    (calls : List VmCall)
    (pid : Pid) : Nat :=
  HashMap.weight
      (fun vm : FirecrackerVM =>
        if vm.holds pid then 1 else 0)
      host.manager.vms +
    calls.countP (VmCall.holds pid)

/- How many hold a process in a system. -/
def held
    (system : ManagedVms)
    (pid : Pid) : Nat :=
  heldBy system.shared system.calls pid

/- Every process that runs is held. -/
def NoOrphans
    (system : ManagedVms) : Prop :=
  ∀ pid ∈ system.shared.live, 0 < held system pid

/- Calls in another order hold the same processes. -/
theorem heldBy_perm
    {host : ManagerHost}
    {calls calls' : List VmCall}
    (hPerm : calls.Perm calls')
    (pid : Pid) :
    heldBy host calls pid = heldBy host calls' pid := by
  unfold heldBy
  rw [hPerm.countP_eq]

/- One call among the others. -/
theorem heldBy_cons
    (host : ManagerHost)
    (call : VmCall)
    (rest : List VmCall)
    (pid : Pid) :
    heldBy host (call :: rest) pid =
      heldBy host rest pid +
        if call.holds pid then 1 else 0 := by
  unfold heldBy
  rw [List.countP_cons]
  exact (Nat.add_assoc _ _ _).symm

/- A call that has not started a VM adds nothing. -/
theorem heldBy_created
    (host : ManagerHost)
    (outcome : Outcome VMError String)
    (rest : List VmCall)
    (pid : Pid) :
    heldBy host (.created outcome :: rest) pid =
      heldBy host rest pid :=
  heldBy_cons host _ rest pid

/- Only the registered VMs and the calls count. -/
theorem heldBy_live
    (host : ManagerHost)
    (live : List Pid)
    (calls : List VmCall)
    (pid : Pid) :
    heldBy { host with live := live } calls pid =
      heldBy host calls pid := rfl

/- A VM that is taken out holds its process no longer. -/
theorem heldBy_erase
    {host : ManagerHost}
    {vmId : String}
    {vm : FirecrackerVM}
    (hLookup : host.manager.vms.lookup vmId = some vm)
    (live : List Pid)
    (rest : List VmCall)
    (pid : Pid) :
    heldBy host rest pid =
      heldBy
          { manager :=
              { host.manager with
                vms := host.manager.vms.erase vmId }
            live := live }
          rest pid +
        if vm.holds pid then 1 else 0 := by
  unfold heldBy
  rw [HashMap.weight_of_lookup_some _ hLookup]
  exact Nat.add_right_comm _ _ _

/- A VM that is registered holds its process. -/
theorem heldBy_insert
    (host : ManagerHost)
    (vm : FirecrackerVM)
    (rest : List VmCall)
    (pid : Pid) :
    heldBy
        { host with
          manager :=
            { host.manager with
              vms :=
                host.manager.vms.insert vm.vmId vm } }
        rest pid =
      heldBy
          { host with
            manager :=
              { host.manager with
                vms := host.manager.vms.erase vm.vmId } }
          rest pid +
        if vm.holds pid then 1 else 0 := by
  unfold heldBy
  dsimp only
  rw [HashMap.weight_insert]
  exact Nat.add_right_comm _ _ _

------------------------------------------------------------
-- Running VMs
------------------------------------------------------------

/- The VMs that are registered or started all run. -/
structure AllRun
    (host : ManagerHost)
    (calls : List VmCall) : Prop where
  registered :
    ∀ vmId vm,
      host.manager.vms.lookup vmId = some vm → vm.Runs
  started : ∀ vm, VmCall.started vm ∈ calls → vm.Runs

theorem AllRun.perm
    {host : ManagerHost}
    {calls calls' : List VmCall}
    (hAll : AllRun host calls)
    (hPerm : calls.Perm calls') :
    AllRun host calls' where
  registered := hAll.registered
  started := by
    intro vm hStarted
    exact hAll.started vm (hPerm.mem_iff.mpr hStarted)

/- The other calls of a system whose VMs all run. -/
theorem AllRun.tail
    {host : ManagerHost}
    {call : VmCall}
    {rest : List VmCall}
    (hAll : AllRun host (call :: rest)) :
    AllRun host rest where
  registered := hAll.registered
  started := by
    intro vm hStarted
    exact
      hAll.started vm (List.mem_cons_of_mem call hStarted)

/- A call that holds no VM changes nothing. -/
theorem AllRun.cons
    {host : ManagerHost}
    {call : VmCall}
    {rest : List VmCall}
    (hAll : AllRun host rest)
    (hCall : ∀ vm, call = .started vm → vm.Runs) :
    AllRun host (call :: rest) where
  registered := hAll.registered
  started := by
    intro vm hStarted
    rcases List.mem_cons.mp hStarted with hFirst | hRest
    · exact hCall vm hFirst.symm
    · exact hAll.started vm hRest

/- A call leaves all VMs running, whatever it does. -/
theorem AllRun.phaseStep
    [PathDebug]
    {host : ManagerHost}
    {call : VmCall}
    {rest : List VmCall}
    (hAll : AllRun host (call :: rest)) :
    AllRun (phaseStep call host).2
      ((phaseStep call host).1 :: rest) := by
  cases call with
  | creating vmId answers =>
      have hStart := startNew_apply vmId answers host
      unfold VmProcess.phaseStep
      dsimp only
      cases hSpawned : answers.spawned vmId with
      | none =>
          rw [hSpawned] at hStart
          rcases hStart with ⟨hHost, outcome, hCreated⟩
          rw [hHost, hCreated]
          exact hAll.tail.cons (fun _ h => nomatch h)
      | some pid =>
          rw [hSpawned] at hStart
          rcases hStart with ⟨hHost, hReady⟩
          rw [hHost]
          split at hReady
          · rcases hReady with ⟨vm, hVm, hStatus, hChild⟩
            rw [hVm]
            refine
              AllRun.cons
                ⟨hAll.registered, hAll.tail.started⟩ ?_
            rintro other ⟨⟩
            exact ⟨hStatus, pid, hChild⟩
          · rcases hReady with ⟨outcome, hCreated⟩
            rw [hCreated]
            exact
              AllRun.cons ⟨hAll.registered, hAll.tail.started⟩
                (fun _ h => nomatch h)
  | started vm =>
      have hRuns := hAll.started vm List.mem_cons_self
      have hRegistered :
          ∀ vmId other,
            (host.manager.vms.insert vm.vmId vm).lookup
                vmId =
              some other →
            other.Runs := by
        intro vmId other hLookup
        rw [HashMap.lookup_insert_eq_ite] at hLookup
        split at hLookup
        · cases hLookup
          exact hRuns
        · exact hAll.registered vmId other hLookup
      unfold VmProcess.phaseStep register
      dsimp only
      cases host.manager.vms.lookup vm.vmId with
      | none =>
          exact
            AllRun.cons ⟨hRegistered, hAll.tail.started⟩
              (fun _ h => nomatch h)
      | some old =>
          exact
            AllRun.cons ⟨hRegistered, hAll.tail.started⟩
              (fun _ h => nomatch h)
  | stopping vmId kill =>
      unfold VmProcess.phaseStep stopAndRemoveVm
      dsimp only
      cases host.manager.vms.lookup vmId with
      | none => exact hAll.tail.cons (fun _ h => nomatch h)
      | some vm =>
          refine
            AllRun.cons ⟨?_, hAll.tail.started⟩
              (fun _ h => nomatch h)
          intro other found hLookup
          dsimp only at hLookup
          rw [HashMap.lookup_erase_eq_ite] at hLookup
          split at hLookup
          · cases hLookup
          · exact hAll.registered other found hLookup
  | created outcome => exact hAll
  | stopped outcome => exact hAll

------------------------------------------------------------
-- Orphans
------------------------------------------------------------

/- No process is held twice. -/
def HeldOnce
    (host : ManagerHost)
    (calls : List VmCall) : Prop :=
  ∀ pid, heldBy host calls pid ≤ 1

/- A process that is spawned has a number nobody knows. -/
def FreshFor
    (host : ManagerHost)
    (calls : List VmCall) : VmCall → Prop
| .creating vmId answers =>
    ∀ pid, answers.spawned vmId = some pid →
      pid ∉ host.live ∧ heldBy host calls pid = 0
| _ => True

/- A call lets go of no process that runs. -/
def KeepsHold
    (host : ManagerHost) : VmCall → Prop
| .creating vmId answers =>
    answers.spawned vmId ≠ none → answers.socketReady = true
| .started vm =>
    ∀ old, host.manager.vms.lookup vm.vmId = some old →
      ∀ pid, old.child = some pid → pid ∉ host.live
| .stopping vmId kill =>
    kill ≠ none →
      ∀ vm, host.manager.vms.lookup vmId = some vm →
        ∀ pid, vm.child = some pid → pid ∉ host.live
| _ => True

/-
  Where one holder lets go and every process was held once,
  all that run are held exactly if its own does not run.
-/
theorem held_released_iff
    {before after : Pid → Nat}
    {live live' : List Pid}
    {child : Option Pid}
    (hOnce : ∀ pid, before pid ≤ 1)
    (hReleased :
      ∀ pid,
        before pid =
          after pid + if child = some pid then 1 else 0)
    (hHeld : ∀ pid ∈ live, 0 < before pid)
    (hLive : ∀ pid ∈ live', pid ∈ live) :
    (∀ pid ∈ live', 0 < after pid) ↔
      ∀ pid, child = some pid → pid ∉ live' := by
  constructor
  · intro hAfter pid hChild hRuns
    have hStill := hAfter pid hRuns
    have hBefore := hReleased pid
    have hLimit := hOnce pid
    rw [if_pos hChild] at hBefore
    omega
  · intro hGone pid hRuns
    have hBefore := hReleased pid
    have hWas := hHeld pid (hLive pid hRuns)
    have hOther : child ≠ some pid := by
      intro hChild
      exact hGone pid hChild hRuns
    rw [if_neg hOther] at hBefore
    omega

/- A call that has let its VM go holds nothing. -/
theorem heldBy_returned
    {host : ManagerHost}
    {call : VmCall}
    (hCall : ∀ pid, call.holds pid = false)
    (rest : List VmCall)
    (pid : Pid) :
    heldBy host (call :: rest) pid =
      heldBy host rest pid := by
  rw [heldBy_cons, hCall pid]
  rfl

/- Who holds what after a VM has been registered. -/
theorem heldBy_register
    [PathDebug]
    (vm : FirecrackerVM)
    (host : ManagerHost)
    (rest : List VmCall)
    (pid : Pid) :
    heldBy host (.started vm :: rest) pid =
      heldBy (phaseStep (.started vm) host).2
          ((phaseStep (.started vm) host).1 :: rest) pid +
        if (host.manager.vms.lookup vm.vmId).bind
            (·.child) = some pid then 1 else 0 := by
  unfold phaseStep register
  dsimp only
  rw [heldBy_cons]
  cases hLookup : host.manager.vms.lookup vm.vmId with
  | none =>
      have hErase :=
        HashMap.erase_of_lookup_none hLookup
      have hInsert := heldBy_insert host vm rest pid
      rw [hErase] at hInsert
      dsimp only
      rw [heldBy_returned fun _ => rfl, hInsert]
      rfl
  | some old =>
      have hInsert := heldBy_insert host vm rest pid
      have hErase :=
        heldBy_erase hLookup host.live rest pid
      dsimp only
      rw [heldBy_returned fun _ => rfl, hInsert, hErase]
      unfold VmCall.holds FirecrackerVM.holds
      simp only [Option.bind_some, decide_eq_true_eq]
      exact Nat.add_right_comm _ _ _

/- Who holds what after a VM has been stopped. -/
theorem heldBy_stop
    [PathDebug]
    (vmId : String)
    (kill : Option String)
    (host : ManagerHost)
    (rest : List VmCall)
    (pid : Pid) :
    heldBy host (.stopping vmId kill :: rest) pid =
      heldBy (phaseStep (.stopping vmId kill) host).2
          ((phaseStep (.stopping vmId kill) host).1 :: rest)
          pid +
        if (host.manager.vms.lookup vmId).bind (·.child) =
            some pid then 1 else 0 := by
  unfold phaseStep stopAndRemoveVm
  rw [heldBy_returned fun _ => rfl]
  dsimp only
  cases hLookup : host.manager.vms.lookup vmId with
  | none =>
      dsimp only
      rw [heldBy_returned fun _ => rfl]
      rfl
  | some vm =>
      dsimp only
      rw [heldBy_returned fun _ => rfl,
        heldBy_erase hLookup
          (FirecrackerVM.stop kill
            ⟨vm, host.live⟩).2.live]
      unfold FirecrackerVM.holds
      simp only [Option.bind_some, decide_eq_true_eq]

/- What runs after a VM has been stopped has run before. -/
theorem mem_live_stop_iff
    [PathDebug]
    (vmId : String)
    (kill : Option String)
    (host : ManagerHost)
    (pid : Pid) :
    pid ∈ (phaseStep (.stopping vmId kill) host).2.live ↔
      pid ∈ host.live ∧
        (kill = none →
          (host.manager.vms.lookup vmId).bind (·.child) ≠
            some pid) := by
  unfold phaseStep stopAndRemoveVm
  dsimp only
  cases host.manager.vms.lookup vmId with
  | none => simp
  | some vm =>
      dsimp only
      rw [FirecrackerVM.stop_live, Option.bind_some]
      cases hChild : vm.child with
      | none => simp
      | some child =>
          cases kill with
          | none =>
              rw [List.mem_filter, decide_eq_true_iff]
              simp [eq_comm]
          | some error => simp

/- Who holds what after a VM has been started. -/
theorem heldBy_start
    [PathDebug]
    (vmId : String)
    (answers : StartAnswers)
    (host : ManagerHost)
    (rest : List VmCall)
    (pid : Pid) :
    heldBy (phaseStep (.creating vmId answers) host).2
        ((phaseStep (.creating vmId answers) host).1 :: rest)
        pid =
      heldBy host (.creating vmId answers :: rest) pid +
        if answers.spawned vmId = some pid ∧
            answers.socketReady = true then 1 else 0 := by
  have hStart := startNew_apply vmId answers host
  have hBegun :
      heldBy host (.creating vmId answers :: rest) pid =
        heldBy host rest pid :=
    heldBy_returned (fun _ => rfl) rest pid
  unfold phaseStep
  dsimp only
  rw [hBegun]
  cases hSpawned : answers.spawned vmId with
  | none =>
      rw [hSpawned] at hStart
      rcases hStart with ⟨hHost, outcome, hCreated⟩
      rw [hHost, hCreated, heldBy_returned fun _ => rfl]
      simp
  | some spawned =>
      rw [hSpawned] at hStart
      rcases hStart with ⟨hHost, hReady⟩
      rw [hHost]
      split at hReady
      · next hSocket =>
          rcases hReady with ⟨vm, hVm, _, hChild⟩
          rw [hVm, heldBy_cons, heldBy_live]
          unfold VmCall.holds FirecrackerVM.holds
          simp [hChild, hSocket]
      · next hSocket =>
          rcases hReady with ⟨outcome, hCreated⟩
          rw [hCreated, heldBy_returned fun _ => rfl]
          simp [heldBy_live, hSocket]

/- What runs after a VM has been started. -/
theorem live_start
    [PathDebug]
    (vmId : String)
    (answers : StartAnswers)
    (host : ManagerHost) :
    (phaseStep (.creating vmId answers) host).2.live =
      (answers.spawned vmId).toList ++ host.live := by
  have hStart := startNew_apply vmId answers host
  unfold phaseStep
  dsimp only
  cases hSpawned : answers.spawned vmId with
  | none =>
      rw [hSpawned] at hStart
      rw [hStart.1]
      rfl
  | some pid =>
      rw [hSpawned] at hStart
      rw [hStart.1]
      rfl

variable [PathDebug]
variable {host : ManagerHost} {call : VmCall}
variable {rest : List VmCall}

/- Processes stay held once where numbers are fresh. -/
theorem HeldOnce.phaseStep
    (hOnce : HeldOnce host (call :: rest))
    (hFresh : FreshFor host (call :: rest) call) :
    HeldOnce (phaseStep call host).2
      ((phaseStep call host).1 :: rest) := by
  intro pid
  have hBefore := hOnce pid
  cases call with
  | creating vmId answers =>
      rw [heldBy_start]
      split
      · next hSpawned =>
          rw [(hFresh pid hSpawned.1).2]
      · exact hBefore
  | started vm =>
      rw [heldBy_register] at hBefore
      omega
  | stopping vmId kill =>
      rw [heldBy_stop] at hBefore
      omega
  | created outcome => exact hBefore
  | stopped outcome => exact hBefore

/- A call makes an orphan exactly if it keeps no hold. -/
theorem noOrphans_phaseStep_iff
    (hOnce : HeldOnce host (call :: rest))
    (hFresh : FreshFor host (call :: rest) call)
    (hHeld :
      ∀ pid ∈ host.live,
        0 < heldBy host (call :: rest) pid) :
    (∀ pid ∈ (phaseStep call host).2.live,
        0 <
          heldBy (phaseStep call host).2
            ((phaseStep call host).1 :: rest) pid) ↔
      KeepsHold host call := by
  cases call with
  | creating vmId answers =>
      rw [live_start]
      simp only [heldBy_start, List.mem_append,
        Option.mem_toList, KeepsHold]
      constructor
      · intro hAfter hSpawns
        rcases Option.ne_none_iff_exists'.mp hSpawns with
          ⟨pid, hSpawned⟩
        have hStill := hAfter pid (Or.inl hSpawned)
        rw [(hFresh pid hSpawned).2, Nat.zero_add] at hStill
        split at hStill
        · next hBoth => exact hBoth.2
        · cases hStill
      · rintro hReady pid (hSpawned | hRuns)
        · have hSome : answers.spawned vmId ≠ none := by
            rw [hSpawned]
            exact Option.some_ne_none pid
          rw [if_pos ⟨hSpawned, hReady hSome⟩]
          exact Nat.succ_pos _
        · exact Nat.add_pos_left (hHeld pid hRuns) _
  | started vm =>
      have hLive :
          (phaseStep (.started vm) host).2.live =
            host.live := by
        unfold phaseStep register
        dsimp only
        cases host.manager.vms.lookup vm.vmId with
        | none => rfl
        | some old => rfl
      rw [hLive,
        held_released_iff hOnce
          (heldBy_register vm host rest) hHeld
          (fun _ hRuns => hRuns)]
      unfold KeepsHold
      cases hLookup : host.manager.vms.lookup vm.vmId with
      | none => simp [hLookup]
      | some old => simp [hLookup]
  | stopping vmId kill =>
      rw [held_released_iff hOnce
          (heldBy_stop vmId kill host rest) hHeld
          (fun pid hRuns =>
            ((mem_live_stop_iff vmId kill host pid).mp
              hRuns).1)]
      simp only [mem_live_stop_iff, KeepsHold, not_and]
      cases host.manager.vms.lookup vmId with
      | none => simp
      | some vm =>
          cases kill with
          | none =>
              simp only [Option.bind_some, ne_eq, not_true,
                true_implies, false_implies, not_not,
                iff_true]
              intro pid hChild _
              exact hChild
          | some error => simp
  | created outcome => exact iff_of_true hHeld trivial
  | stopped outcome => exact iff_of_true hHeld trivial

------------------------------------------------------------
-- Runs of the System
------------------------------------------------------------

/- An action spawns no process under a known number. -/
def FreshSpawn
    (system : ManagedVms) : ProcessAction → Prop
| .proceed position =>
    ∀ call, system.calls[position]? = some call →
      FreshFor system.shared system.calls call
| .exits _ => True

/- An action lets go of no process that runs. -/
def LetsNoneGo
    (system : ManagedVms) : ProcessAction → Prop
| .proceed position =>
    ∀ call, system.calls[position]? = some call →
      KeepsHold system.shared call
| .exits _ => True

/- All VMs of a system run, whatever acts. -/
theorem allRun_step
    (system : ManagedVms)
    (action : ProcessAction)
    (hAll : AllRun system.shared system.calls) :
    AllRun (step system action).shared
      (step system action).calls := by
  cases action with
  | exits pid => exact ⟨hAll.registered, hAll.started⟩
  | proceed position =>
      exact
        Interleaved.invariant_step AllRun.perm
          (fun call _ hFirst => hFirst.phaseStep) hAll

omit [PathDebug] in
/- What is fresh does not depend on the order of calls. -/
theorem FreshFor.perm
    {calls calls' : List VmCall}
    (hFresh : FreshFor host calls call)
    (hPerm : calls.Perm calls') :
    FreshFor host calls' call := by
  cases call with
  | creating vmId answers =>
      intro pid hSpawned
      rw [← heldBy_perm hPerm]
      exact hFresh pid hSpawned
  | _ => trivial

/- Processes are held once throughout. -/
theorem heldOnce_step
    (system : ManagedVms)
    (action : ProcessAction)
    (hOnce : HeldOnce system.shared system.calls)
    (hFresh : FreshSpawn system action) :
    HeldOnce (step system action).shared
      (step system action).calls := by
  cases action with
  | exits pid => exact hOnce
  | proceed position =>
      unfold step
      dsimp only
      cases hCall : system.calls[position]? with
      | none =>
          rw [Interleaved.step_of_none hCall]
          exact hOnce
      | some call =>
          rcases Interleaved.step_of_some phaseStep hCall with
            ⟨hShared, hBefore, hAfter⟩
          have hFirst :
              HeldOnce system.shared
                (call :: system.calls.eraseIdx position) := by
            intro pid
            rw [← heldBy_perm hBefore]
            exact hOnce pid
          have hNext :=
            hFirst.phaseStep
              ((hFresh call hCall).perm hBefore)
          intro pid
          rw [heldBy_perm hAfter, hShared]
          exact hNext pid

/- An action makes an orphan exactly if it lets one go. -/
theorem noOrphans_step_iff
    (system : ManagedVms)
    (action : ProcessAction)
    (hOnce : HeldOnce system.shared system.calls)
    (hFresh : FreshSpawn system action)
    (hHeld : NoOrphans system) :
    NoOrphans (step system action) ↔
      LetsNoneGo system action := by
  cases action with
  | exits pid =>
      refine iff_of_true ?_ trivial
      intro other hRuns
      exact hHeld other (List.mem_filter.mp hRuns).1
  | proceed position =>
      unfold LetsNoneGo
      dsimp only
      cases hCall : system.calls[position]? with
      | none =>
          have hSame :
              step system (.proceed position) = system :=
            Interleaved.step_of_none hCall
          rw [hSame]
          refine iff_of_true hHeld ?_
          intro call hSome
          cases hSome
      | some call =>
          rcases Interleaved.step_of_some phaseStep hCall with
            ⟨hShared, hBefore, hAfter⟩
          have hFirst :
              HeldOnce system.shared
                (call :: system.calls.eraseIdx position) := by
            intro pid
            rw [← heldBy_perm hBefore]
            exact hOnce pid
          have hDecides :=
            noOrphans_phaseStep_iff hFirst
              ((hFresh call hCall).perm hBefore)
              (fun pid hRuns => by
                rw [← heldBy_perm hBefore]
                exact hHeld pid hRuns)
          have hSystem :
              NoOrphans (step system (.proceed position)) ↔
                ∀ pid ∈ (phaseStep call system.shared).2.live,
                  0 <
                    heldBy (phaseStep call system.shared).2
                      ((phaseStep call system.shared).1 ::
                        system.calls.eraseIdx position)
                      pid := by
            unfold NoOrphans held step
            dsimp only
            rw [hShared]
            simp only [heldBy_perm hAfter]
          rw [hSystem, hDecides]
          constructor
          · rintro hKeeps other ⟨⟩
            exact hKeeps
          · intro hKeeps
            exact hKeeps call rfl

omit [PathDebug] in
/- Calls that have not begun hold nothing. -/
theorem held_begin
    (defaultConfig : FirecrackerProcessConfig)
    {calls : List VmCall}
    (hNew : ∀ call ∈ calls, call.isNew = true)
    (pid : Pid) :
    held (begin defaultConfig calls) pid = 0 := by
  have hCalls : calls.countP (VmCall.holds pid) = 0 := by
    apply List.countP_eq_zero.mpr
    intro call hCall hHolds
    have hIsNew := hNew call hCall
    cases call with
    | started => cases hIsNew
    | _ => cases hHolds
  unfold held heldBy
  rw [show (begin defaultConfig calls).calls = calls from rfl,
    hCalls]
  rfl

/-
  However calls are interleaved and processes exit, the
  status of every VM that the manager knows is running, and
  a process has been spawned for it.
-/
theorem getVmStatus_run
    (defaultConfig : FirecrackerProcessConfig)
    (calls : List VmCall)
    (hNew : ∀ call ∈ calls, call.isNew = true)
    (actions : List ProcessAction)
    (vmId : String) :
    let last :=
      Runs.run step (begin defaultConfig calls) actions
    ∀ vm, last.shared.manager.vms.lookup vmId = some vm →
      last.shared.manager.getVmStatus vmId =
          some .running ∧
        ∃ pid, vm.child = some pid := by
  intro last vm hLookup
  have hStart :
      AllRun (begin defaultConfig calls).shared
        (begin defaultConfig calls).calls := by
    constructor
    · intro other found hFound
      cases hFound
    · intro found hStarted
      have hIsNew := hNew _ hStarted
      cases hIsNew
  have hAll : AllRun last.shared last.calls :=
    Runs.run_of_invariant allRun_step actions hStart
  have hRuns := hAll.registered vmId vm hLookup
  unfold VMManager.getVmStatus
  rw [hLookup, Option.map_some, hRuns.1]
  exact ⟨rfl, hRuns.2⟩

/-
  Where processes get fresh numbers, no process ever runs
  that nothing holds exactly if no start times out after it
  has spawned one, no kill of a process that runs fails, and
  no VM replaces one whose process runs.
-/
theorem noOrphans_iff
    (defaultConfig : FirecrackerProcessConfig)
    (calls : List VmCall)
    (hNew : ∀ call ∈ calls, call.isNew = true)
    (actions : List ProcessAction)
    (hFresh :
      Runs.AlongRun step FreshSpawn
        (begin defaultConfig calls) actions) :
    Runs.Throughout step NoOrphans
        (begin defaultConfig calls) actions ↔
      Runs.AlongRun step LetsNoneGo
        (begin defaultConfig calls) actions := by
  apply
    Runs.throughout_iff_alongRun_of_given heldOnce_step
      noOrphans_step_iff ?_ ?_ hFresh
  · intro pid
    have hNone := held_begin defaultConfig hNew pid
    exact hNone.le.trans (Nat.zero_le 1)
  · intro pid hRuns
    cases hRuns

end VmProcess

end IsaWorkspace

------------------------------------------------------------
-- A Sample Run
------------------------------------------------------------

namespace IsaWorkspace

namespace VmProcess

/- A start whose socket is ready in time. -/
def sampleStart : VmCall :=
  .creating "11111111-2222"
    { createDir := none
      serialize := none
      writeConfig := none
      spawn := .ok 7
      socketReady := true }

theorem sampleStart_isNew :
    ∀ call ∈ [sampleStart], call.isNew = true := by
  intro call hCall
  rw [List.mem_singleton.mp hCall]
  rfl

theorem noOrphans_sample :
    @Runs.Throughout _ _ (@step ⟨id⟩) NoOrphans
      (begin ⟨"/srv"⟩ [sampleStart]) [.proceed 0] := by
  apply
    (@noOrphans_iff ⟨id⟩ ⟨"/srv"⟩ [sampleStart]
        sampleStart_isNew [.proceed 0] ?_).mpr
  · refine ⟨?_, trivial⟩
    intro call hCall
    cases hCall
    intro _
    rfl
  · refine ⟨?_, trivial⟩
    intro call hCall
    cases hCall
    intro pid _
    exact ⟨List.not_mem_nil, rfl⟩

theorem getVmStatus_sample :
    let last :=
      @Runs.run _ _ (@step ⟨id⟩)
        (begin ⟨"/srv"⟩ [sampleStart])
        [.proceed 0, .proceed 0]
    ∀ vm,
      last.shared.manager.vms.lookup "11111111-2222" =
          some vm →
        last.shared.manager.getVmStatus "11111111-2222" =
            some .running ∧
          ∃ pid, vm.child = some pid :=
  @getVmStatus_run ⟨id⟩ ⟨"/srv"⟩ [sampleStart]
    sampleStart_isNew [.proceed 0, .proceed 0]
    "11111111-2222"

end VmProcess

end IsaWorkspace
