import VyuhHmi.Device.Routing

/-!
# Writable registers

`post_write` checks a register against the configuration in the registry entry, and the command
then goes to the entry's task.  `connect_device` reads the configuration in one lock section and
stores the task it has started with it in a later one, leaving the configuration of the entry
alone.  When the device has been removed and added again in between, the entry's configuration and
the one its task was started with differ.
-/

namespace VyuhHmi

namespace DeviceRuntime

/-- Every write that a task is performing comes from a request to the task's device, for that
request's register and value, and the register is writable in the configuration the task was
started with. -/
def WritesAuthorised (s : DeviceRuntime) : Prop :=
  ∀ task ∈ s.tasks, ∀ command accepted, task.phase = .writing command accepted →
    s.Issued task.config.id command ∧ command.register ∈ task.config.writable

/-- When `connect_device` stores its new task, the entry's writable registers are among those of
the configuration that the task was started with. -/
def connectKeepsWritable (s : DeviceRuntime) : Label → Bool
  | .advance i _ =>
      match s.requests[i]? with
      | some ⟨.connectDevice deviceId, .registering config _⟩ =>
          (s.registry deviceId).all fun handle ↦
            handle.config.writable.all fun register ↦ config.writable.contains register
      | _ => true
  | _ => true

variable {socketAddr : String → Bool} {overflowChecks : Bool}
  {configured deviceTable : List DeviceConfig} {labels : List Label} {s : DeviceRuntime}

theorem connectsPermitted_of_connectKeepsWritable {label : Label}
    (h : s.connectKeepsWritable label) :
    s.ConnectsPermitted (fun register config ↦ register ∈ config.writable) label := by
  rintro i now deviceId config task handle rfl hrequest hhandle
  simp only [connectKeepsWritable, hrequest, hhandle, Option.all_some, List.all_eq_true,
    List.contains_iff_mem] at h
  exact h

/-- **Writes stay authorised.** While every `connect_device` stores its task beside writable
registers that the task was started with, no task writes a register that is not writable in its
own configuration, and every write is the one its request asked for. -/
theorem writes_authorised
    (hrun : Transition.Run (Transition.guarded (fun s label ↦ s.connectKeepsWritable label)
      (Transition.ofOption (step socketAddr overflowChecks))) (init configured deviceTable)
      labels s) : s.WritesAuthorised := by
  have hrouted : s.Routed fun register config ↦ register ∈ config.writable := by
    refine hrun.invariant (routed_init _ configured deviceTable) fun u label v hu hstep ↦ ?_
    exact routed_effect (fun _ _ hmem ↦ hmem) (connectsPermitted_of_connectKeepsWritable hstep.1) hu
      (effect_of_step hstep.2)
  intro task hmem command accepted hphase
  obtain ⟨i, htask⟩ := List.getElem?_of_mem hmem
  exact hrouted.command i task htask command
    (List.mem_append_left _ (PollingTask.mem_current_iff.mpr ⟨accepted, hphase⟩))

/-! ## Runs -/

/-- Add a device, connect it again after a disconnect, and write to it. -/
def reconnectRun : List Label :=
  handled 0 (.addDevice (reactor [1031])) 4 ++
  handled 1 (.disconnectDevice "plc-01") 1 ++ [.poll 0 .stop] ++
  handled 2 (.connectDevice "plc-01") 3 ++ [.poll 1 .connected] ++
  handled 3 (.postWrite operatorClaims ⟨"plc-01", 1031, 2⟩) 2 ++ [.poll 1 .receive]

theorem writes_authorised_reconnectRun :
    ∃ s, Transition.exec (step (fun _ ↦ true) true) (init [] []) reconnectRun = some s ∧
      s.WritesAuthorised := by
  obtain ⟨s, hrun⟩ := @Transition.exists_run_guarded _ _ (init [] []) (step (fun _ ↦ true) true)
    (fun s label ↦ s.connectKeepsWritable label) _ reconnectRun (by decide)
  exact ⟨s, Transition.run_ofOption_iff.mp hrun.of_guarded, writes_authorised hrun⟩

/-- The device is removed and added again with another writable register while `connect_device` is
between its lock sections; then that register is written. -/
def staleConnectRun : List Label :=
  handled 0 (.addDevice (reactor [1031])) 4 ++
  handled 1 (.disconnectDevice "plc-01") 1 ++ [.poll 0 .stop] ++
  handled 2 (.connectDevice "plc-01") 2 ++
  handled 3 (.removeDevice "plc-01") 2 ++
  handled 4 (.addDevice (reactor [1028])) 4 ++
  [.advance 2 0, .poll 1 .connected] ++
  handled 5 (.postWrite operatorClaims ⟨"plc-01", 1028, 1⟩) 2 ++ [.poll 1 .receive]

theorem staleConnectRun_unauthorised :
    ∃ s, Transition.exec (step (fun _ ↦ true) true) (init [] []) staleConnectRun = some s ∧
      ¬s.WritesAuthorised := by
  apply @Transition.exists_exec_not _ _ _ _ _ fun s ↦
    s.tasks.all fun task ↦ task.current.all fun command ↦
      task.config.writable.contains command.register
  · intro s hauthorised
    simp only [List.all_eq_true, List.contains_iff_mem]
    intro task htask command hcommand
    obtain ⟨accepted, hphase⟩ := PollingTask.mem_current_iff.mp hcommand
    exact (hauthorised task htask command accepted hphase).2
  · decide

end DeviceRuntime

end VyuhHmi
