import FamilyGateway.Routing.CommandRouter

/-!
# The commands behind a call

A router that runs commands is seen from outside by the commands that it runs and by how
they end. A shell that writes both down changes nothing about the router
(`CommandRouter.answer_recording`), so what it has written can be taken for what the router
did. Each call is then an `Exchange`: what was asked, what was run for it, and the result.

With the tools that have a policy table, a call takes one of four courses
(`CommandRouter.Changes`), which say what is run and what the router remembers afterwards.
Its result is good exactly if every command that was run for it succeeded
(`CommandRouter.changes_answer`).
-/

set_option autoImplicit false

namespace FamilyGateway

variable {σ τ : Type}

/-! ## Shells that write down what they run -/

/-- A command that was run, and how it ended. -/
structure Execution where
  command : Invocation
  result : CommandResult
  deriving DecidableEq, Repr

/-- The shell that writes down what it runs, behind what it ran before. -/
def Shell.recording (shell : Shell σ) : Shell (σ × List Execution) := fun state command =>
  let (next, result) := shell state.1 command
  ((next, state.2 ++ [⟨command, result⟩]), result)

/-- Only a command that succeeds is taken for one. -/
theorem CommandResult.check_cases (command : Invocation) (result : CommandResult) :
    result = .success ∧ result.check command = .ok () ∨
      result ≠ .success ∧ ∃ error, result.check command = .error error := by
  cases result with
  | success => exact .inl ⟨rfl, rfl⟩
  | failure complaint => exact .inr ⟨nofun, _, rfl⟩
  | notStarted error => exact .inr ⟨nofun, _, rfl⟩
  | nulInWord => exact .inr ⟨nofun, _, rfl⟩

/-- Rules need the policy table. -/
def Installed.isRule : Installed → Bool
  | route _ _ => false
  | rule _ _ => true

/-- What a call asks to be added. -/
def RouteCall.wanted? : RouteCall → Option Installed
  | addHost address => some (.route address address.family.hostPrefixLength)
  | addNetwork network length => some (.route network length)
  | addRule network length => some (.rule network length)
  | removeAll _ => none

namespace CommandRouter

/-- The router over another state of a shell. -/
def withShell (router : CommandRouter τ) (state : σ) : CommandRouter σ :=
  ⟨router.tool, router.interface, router.installed, router.policyTableReady, state⟩

/-! ## What is not written down -/

section Recording

variable {shell : Shell σ} {router : CommandRouter (σ × List Execution)}

/-- The router without what its shell has written down. -/
def plain (router : CommandRouter (σ × List Execution)) : CommandRouter σ :=
  router.withShell router.shell.1

/-- An outcome without what the shell has written down. -/
def plainly {ε : Type} (outcome : CommandRouter (σ × List Execution) × ε) :
    CommandRouter σ × ε := (outcome.1.plain, outcome.2)

@[simp] theorem tool_plain : router.plain.tool = router.tool := rfl

@[simp] theorem interface_plain : router.plain.interface = router.interface := rfl

@[simp] theorem installed_plain : router.plain.installed = router.installed := rfl

@[simp] theorem policyTableReady_plain :
    router.plain.policyTableReady = router.policyTableReady := rfl

theorem run_plain (command : Invocation) :
    router.plain.run shell command = plainly (router.run shell.recording command) := rfl

theorem install_plain (entry : Installed) :
    router.plain.install shell entry = plainly (router.install shell.recording entry) := by
  simp only [install, run_plain, tool_plain, interface_plain]
  generalize router.run shell.recording _ = outcome
  rcases outcome with ⟨after, error | done⟩ <;> rfl

theorem preparePolicyTable_plain :
    router.plain.preparePolicyTable shell =
      plainly (router.preparePolicyTable shell.recording) := by
  cases ready : router.policyTableReady with
  | true =>
      simp only [preparePolicyTable, policyTableReady_plain, ready, if_true]
      rfl
  | false =>
      simp only [preparePolicyTable, run_plain, tool_plain, interface_plain,
        policyTableReady_plain, ready, Bool.false_eq_true, if_false]
      cases router.tool.fillPolicyTable router.interface with
      | none => rfl
      | some command =>
          dsimp only
          generalize router.run shell.recording command = outcome
          rcases outcome with ⟨after, error | done⟩ <;> rfl

theorem installRule_plain (network : Address) (length : Nat) :
    router.plain.installRule shell network length =
      plainly (router.installRule shell.recording network length) := by
  simp only [installRule, preparePolicyTable_plain]
  generalize router.preparePolicyTable shell.recording = outcome
  rcases outcome with ⟨after, error | done⟩
  · rfl
  · exact install_plain _

theorem deleteAll_plain (router : CommandRouter (σ × List Execution)) (entries : List Installed) :
    router.plain.deleteAll shell entries = plainly (router.deleteAll shell.recording entries) := by
  induction entries generalizing router with
  | nil => rfl
  | cons entry rest ih =>
      simp only [deleteAll, run_plain, tool_plain, interface_plain]
      generalize router.run shell.recording _ = outcome
      obtain ⟨after, result⟩ := outcome
      simp only [plainly, ih]
      cases result <;> rfl

theorem discardPolicyTable_plain :
    router.plain.discardPolicyTable shell =
      plainly (router.discardPolicyTable shell.recording) := by
  cases ready : router.policyTableReady with
  | true =>
      simp only [discardPolicyTable, run_plain, tool_plain, policyTableReady_plain, ready, if_true]
      cases router.tool.emptyPolicyTable with
      | none => rfl
      | some command =>
          dsimp only
          generalize router.run shell.recording command = outcome
          rcases outcome with ⟨after, error | done⟩ <;> rfl
  | false =>
      simp only [discardPolicyTable, policyTableReady_plain, ready, Bool.false_eq_true, if_false]
      rfl

theorem removeAll_plain (family : Family) :
    router.plain.removeAll shell family =
      { router.removeAll shell.recording family with
        state := (router.removeAll shell.recording family).state.plain } := by
  cases parts : router.installed.partition fun entry => entry.family = family with
  | mk removed kept =>
      have deleted : deleteAll shell { router.plain with installed := kept } removed.reverse =
          plainly (deleteAll shell.recording { router with installed := kept } removed.reverse) :=
        deleteAll_plain { router with installed := kept } removed.reverse
      unfold removeAll
      rw [installed_plain, parts]
      dsimp only
      rw [deleted]
      generalize deleteAll shell.recording _ _ = outcome
      cases family with
      | inet => rfl
      | inet6 => simp only [plainly, discardPolicyTable_plain]

/-- A router does over a shell what it does over the one that writes down what it runs. -/
theorem answer_recording (shell : Shell σ) (router : CommandRouter (σ × List Execution))
    (call : RouteCall) :
    answer shell router.plain call =
      { answer shell.recording router call with
        state := (answer shell.recording router call).state.plain } := by
  cases call with
  | addHost address => simp only [answer, install_plain]; rfl
  | addNetwork network length => simp only [answer, install_plain]; rfl
  | addRule network length => simp only [answer, installRule_plain]; rfl
  | removeAll family => exact removeAll_plain family

end Recording

/-! ## What is run -/

/-- The command that fills the policy table. -/
def fillCommand (interface : String) : Invocation :=
  (RouteTool.iproute.fillPolicyTable interface).get rfl

/-- The command that empties the policy table. -/
def emptyCommand : Invocation := RouteTool.iproute.emptyPolicyTable.get rfl

/-- What a router remembers of what it has run. -/
structure Memory where
  installed : List Installed
  policyTableReady : Bool

/-- What is remembered once the command that adds an entry has ended. -/
def Memory.noting (memory : Memory) (entry : Installed) (result : CommandResult) : Memory :=
  if result = .success then { memory with installed := memory.installed ++ [entry] } else memory

def memory (router : CommandRouter σ) : Memory := ⟨router.installed, router.policyTableReady⟩

/-- Some commands have been run, and the router remembers something else afterwards. -/
structure Ran (before after : CommandRouter (σ × List Execution)) (executed : List Execution)
    (remembered : Memory) : Prop where
  tool : after.tool = before.tool
  interface : after.interface = before.interface
  written : after.shell.2 = before.shell.2 ++ executed
  memory : after.memory = remembered

namespace Ran

variable {before between after : CommandRouter (σ × List Execution)}
  {executed more : List Execution} {remembered last : Memory}

theorem nothing (router : CommandRouter (σ × List Execution)) :
    Ran router router [] router.memory :=
  ⟨rfl, rfl, (List.append_nil _).symm, rfl⟩

theorem trans (first : Ran before between executed remembered)
    (second : Ran between after more last) : Ran before after (executed ++ more) last where
  tool := second.tool.trans first.tool
  interface := second.interface.trans first.interface
  written := by rw [second.written, first.written, List.append_assoc]
  memory := second.memory

end Ran

section Recorded

variable {shell : Shell σ} {router : CommandRouter (σ × List Execution)}

theorem ran_run (shell : Shell σ) (router : CommandRouter (σ × List Execution))
    (command : Invocation) :
    ∃ result, Ran router (router.run shell.recording command).1 [⟨command, result⟩]
        router.memory ∧
      (router.run shell.recording command).2 = result.check command :=
  ⟨(shell router.shell.1 command).2, ⟨rfl, rfl, rfl, rfl⟩, rfl⟩

/-- Adding something takes one command, and is remembered if the command succeeds. -/
theorem ran_install (shell : Shell σ) (router : CommandRouter (σ × List Execution))
    (entry : Installed) :
    ∃ result, Ran router (router.install shell.recording entry).1
        [⟨entry.command router.tool router.interface .add, result⟩]
        (router.memory.noting entry result) ∧
      ((router.install shell.recording entry).2 = .ok () ↔ result = .success) := by
  obtain ⟨result, ran, checked⟩ :=
    ran_run shell router (entry.command router.tool router.interface .add)
  refine ⟨result, ?_⟩
  unfold install
  generalize router.run shell.recording _ = outcome at ran checked ⊢
  obtain ⟨after, answer⟩ := outcome
  obtain rfl : answer = _ := checked
  rcases result.check_cases (entry.command router.tool router.interface .add) with
    ⟨success, checked⟩ | ⟨failed, error, checked⟩
  · rw [checked, Memory.noting, if_pos success]
    refine ⟨⟨ran.tool, ran.interface, ran.written, ?_⟩, iff_of_true rfl success⟩
    rw [← ran.memory]
    rfl
  · rw [checked, Memory.noting, if_neg failed]
    exact ⟨ran, iff_of_false nofun failed⟩

/-- With a policy table, filling it takes one command, and nothing if it is filled. -/
theorem ran_preparePolicyTable (shell : Shell σ) (router : CommandRouter (σ × List Execution))
    (tool : router.tool = .iproute) :
    (router.policyTableReady = true ∧
        router.preparePolicyTable shell.recording = (router, .ok ())) ∨
      router.policyTableReady = false ∧
        ∃ result, Ran router (router.preparePolicyTable shell.recording).1
          [⟨fillCommand router.interface, result⟩]
          ⟨router.installed, decide (result = .success)⟩ ∧
        ((router.preparePolicyTable shell.recording).2 = .ok () ↔ result = .success) := by
  have fill : router.tool.fillPolicyTable router.interface =
      some (fillCommand router.interface) := by
    rw [tool]
    rfl
  unfold preparePolicyTable
  cases ready : router.policyTableReady with
  | true => exact .inl ⟨rfl, rfl⟩
  | false =>
      obtain ⟨result, ran, checked⟩ := ran_run shell router (fillCommand router.interface)
      refine .inr ⟨rfl, result, ?_⟩
      simp only [Bool.false_eq_true, if_false, fill]
      generalize router.run shell.recording _ = outcome at ran checked ⊢
      obtain ⟨after, answer⟩ := outcome
      obtain rfl : answer = _ := checked
      have kept : after.installed = router.installed := congrArg Memory.installed ran.memory
      have flag : after.policyTableReady = false :=
        (congrArg Memory.policyTableReady ran.memory).trans ready
      rcases result.check_cases (fillCommand router.interface) with
        ⟨success, checked⟩ | ⟨failed, error, checked⟩
      · rw [checked, decide_eq_true success]
        refine ⟨⟨ran.tool, ran.interface, ran.written, ?_⟩, iff_of_true rfl success⟩
        rw [← kept]
        rfl
      · rw [checked, decide_eq_false failed]
        refine ⟨⟨ran.tool, ran.interface, ran.written, ?_⟩, iff_of_false nofun failed⟩
        rw [← kept, ← flag]
        rfl

/-- Deleting goes through all entries, whichever of the commands fail. -/
theorem ran_deleteAll (shell : Shell σ) (router : CommandRouter (σ × List Execution))
    (entries : List Installed) :
    ∃ executed, Ran router (router.deleteAll shell.recording entries).1 executed router.memory ∧
      executed.map Execution.command =
        entries.map (Installed.command router.tool router.interface .delete) ∧
      ((router.deleteAll shell.recording entries).2 = [] ↔
        ∀ execution ∈ executed, execution.result = .success) := by
  induction entries generalizing router with
  | nil => exact ⟨[], .nothing router, rfl, iff_of_true rfl (List.forall_mem_nil _)⟩
  | cons entry rest ih =>
      obtain ⟨result, ran, checked⟩ :=
        ran_run shell router (entry.command router.tool router.interface .delete)
      unfold deleteAll
      generalize router.run shell.recording _ = outcome at ran checked ⊢
      obtain ⟨after, answer⟩ := outcome
      obtain rfl : answer = _ := checked
      obtain ⟨executed, later, commands, errors⟩ := ih after
      have whole := ran.trans later
      rw [ran.memory] at whole
      have named : (⟨entry.command router.tool router.interface .delete, result⟩ ::
          executed).map Execution.command =
            (entry :: rest).map (Installed.command router.tool router.interface .delete) := by
        rw [List.map_cons, commands, ran.tool, ran.interface, List.map_cons]
      rcases result.check_cases (entry.command router.tool router.interface .delete) with
        ⟨success, checked⟩ | ⟨failed, error, checked⟩
      · rw [checked]
        refine ⟨_, whole, named, errors.trans ?_⟩
        rw [List.singleton_append, List.forall_mem_cons]
        exact (and_iff_right success).symm
      · rw [checked]
        refine ⟨_, whole, named, iff_of_false (List.cons_ne_nil _ _) fun all => ?_⟩
        exact failed (all _ List.mem_cons_self)

/-- Emptying the policy table takes one command if it is filled, and is not tried again. -/
theorem ran_discardPolicyTable (shell : Shell σ) (router : CommandRouter (σ × List Execution))
    (tool : router.tool = .iproute) :
    ∃ executed, Ran router (router.discardPolicyTable shell.recording).1 executed
        ⟨router.installed, false⟩ ∧
      executed.map Execution.command =
        (if router.policyTableReady then [emptyCommand] else []) ∧
      ((router.discardPolicyTable shell.recording).2 = [] ↔
        ∀ execution ∈ executed, execution.result = .success) := by
  have empty : router.tool.emptyPolicyTable = some emptyCommand := by
    rw [tool]
    rfl
  unfold discardPolicyTable
  cases ready : router.policyTableReady with
  | false =>
      have same : (⟨router.installed, false⟩ : Memory) = router.memory := by rw [memory, ready]
      rw [same]
      exact ⟨[], .nothing router, rfl, iff_of_true rfl (List.forall_mem_nil _)⟩
  | true =>
      obtain ⟨result, ran, checked⟩ := ran_run shell router emptyCommand
      refine ⟨[⟨emptyCommand, result⟩], ?_⟩
      simp only [if_true, empty]
      generalize router.run shell.recording _ = outcome at ran checked ⊢
      obtain ⟨after, answer⟩ := outcome
      obtain rfl : answer = _ := checked
      have kept : after.installed = router.installed := congrArg Memory.installed ran.memory
      rw [← kept, List.forall_mem_singleton]
      rcases result.check_cases emptyCommand with ⟨success, checked⟩ | ⟨failed, error, checked⟩
      · rw [checked]
        exact ⟨⟨ran.tool, ran.interface, ran.written, rfl⟩, rfl, iff_of_true rfl success⟩
      · rw [checked]
        exact ⟨⟨ran.tool, ran.interface, ran.written, rfl⟩, rfl,
          iff_of_false (List.cons_ne_nil _ _) failed⟩

/-- What is run when a family is removed. -/
def removal (interface : String) (memory : Memory) (family : Family) : List Invocation :=
  ((memory.installed.filter fun entry => entry.family = family).reverse.map
      (Installed.command .iproute interface .delete)) ++
    if family = .inet6 ∧ memory.policyTableReady then [emptyCommand] else []

/-- What is remembered once a family was removed. -/
def Memory.without (memory : Memory) (family : Family) : Memory :=
  ⟨memory.installed.filter fun entry => entry.family ≠ family,
    memory.policyTableReady && family ≠ .inet6⟩

theorem combineErrors_eq_ok_iff {errors : List RouteError} :
    combineErrors errors = .ok () ↔ errors = [] := by
  unfold combineErrors
  split
  next none => exact iff_of_true rfl none
  next some => exact iff_of_false nofun some

theorem ran_removeAll (shell : Shell σ) (router : CommandRouter (σ × List Execution))
    (tool : router.tool = .iproute) (family : Family) :
    ∃ executed, Ran router (router.removeAll shell.recording family).state executed
        (router.memory.without family) ∧
      executed.map Execution.command = removal router.interface router.memory family ∧
      ((router.removeAll shell.recording family).result = .ok () ↔
        ∀ execution ∈ executed, execution.result = .success) := by
  have parts : router.installed.partition (fun entry => decide (entry.family = family)) =
      (router.installed.filter fun entry => entry.family = family,
        router.installed.filter fun entry => entry.family ≠ family) := by
    simp only [List.partition_eq_filter_filter, Function.comp_def, ne_eq, decide_not]
  unfold removeAll
  rw [parts]
  dsimp only
  obtain ⟨executed, ran, commands, errors⟩ := ran_deleteAll shell
    { router with installed := router.installed.filter fun entry => entry.family ≠ family }
    (router.installed.filter fun entry => entry.family = family).reverse
  generalize deleteAll shell.recording _ _ = outcome at ran errors ⊢
  obtain ⟨after, failures⟩ := outcome
  rw [tool] at commands
  cases family with
  | inet =>
      refine ⟨executed, ⟨ran.tool, ran.interface, ran.written, ?_⟩, ?_, ?_⟩
      · refine ran.memory.trans ?_
        simp [memory, Memory.without]
      · rw [commands, removal, if_neg nofun, List.append_nil]
        rfl
      · rw [combineErrors_eq_ok_iff, List.append_nil]
        exact errors
  | inet6 =>
      -- The deletions do not touch the flag, so the table is emptied as if it came first.
      obtain ⟨emptied, later, emptying, leftovers⟩ := ran_discardPolicyTable shell after
        (ran.tool.trans tool)
      have left : after.installed = _ := congrArg Memory.installed ran.memory
      have flag : after.policyTableReady = router.policyTableReady :=
        congrArg Memory.policyTableReady ran.memory
      refine ⟨executed ++ emptied, ⟨later.tool.trans ran.tool, later.interface.trans ran.interface,
        ?_, ?_⟩, ?_, ?_⟩
      · rw [later.written, ran.written, List.append_assoc]
      · refine later.memory.trans ?_
        rw [left]
        simp [memory, Memory.without]
      · rw [List.map_append, commands, emptying, flag, removal]
        simp [memory]
      · rw [combineErrors_eq_ok_iff, List.append_eq_nil_iff, List.forall_mem_append]
        exact and_congr errors leftovers

/-! ## Calls -/

/-- What is run for a call with the tools that have a policy table, and what the router remembers
before and afterwards. -/
inductive Changes (interface : String) (memory : Memory) :
    RouteCall → List Execution → Memory → Prop where
  /-- An entry is added, and a rule only once the policy table is filled. -/
  | attempted {call : RouteCall} {entry : Installed} (asked : call.wanted? = some entry)
      (prepared : entry.isRule = true → memory.policyTableReady = true) (result : CommandResult) :
      Changes interface memory call [⟨entry.command .iproute interface .add, result⟩]
        (memory.noting entry result)
  /-- A rule is not tried because the policy table cannot be filled. -/
  | unprepared {network : Address} {length : Nat} {result : CommandResult}
      (empty : memory.policyTableReady = false) (failed : result ≠ .success) :
      Changes interface memory (.addRule network length) [⟨fillCommand interface, result⟩] memory
  /-- The policy table is filled, and then a rule is added. -/
  | prepared {network : Address} {length : Nat} (empty : memory.policyTableReady = false)
      (result : CommandResult) :
      Changes interface memory (.addRule network length)
        [⟨fillCommand interface, .success⟩,
          ⟨(Installed.rule network length).command .iproute interface .add, result⟩]
        (Memory.noting { memory with policyTableReady := true } (.rule network length) result)
  /-- A family is removed. -/
  | removed {family : Family} {executed : List Execution}
      (commands : executed.map Execution.command = removal interface memory family) :
      Changes interface memory (.removeAll family) executed (memory.without family)

theorem ran_installRule (shell : Shell σ) (router : CommandRouter (σ × List Execution))
    (tool : router.tool = .iproute) (network : Address) (length : Nat) :
    ∃ executed remembered, Ran router (router.installRule shell.recording network length).1
        executed remembered ∧
      Changes router.interface router.memory (.addRule network length) executed remembered ∧
      ((router.installRule shell.recording network length).2 = .ok () ↔
        ∀ execution ∈ executed, execution.result = .success) := by
  unfold installRule
  rcases ran_preparePolicyTable shell router tool with
    ⟨ready, same⟩ | ⟨empty, filling, filled, granted⟩
  · rw [same]
    obtain ⟨result, ran, added⟩ := ran_install shell router (.rule network length)
    refine ⟨_, _, ran, ?_, ?_⟩
    · rw [tool]
      exact .attempted rfl (fun _ => ready) result
    · rw [List.forall_mem_singleton]
      exact added
  · generalize router.preparePolicyTable shell.recording = outcome at filled granted ⊢
    obtain ⟨after, error | done⟩ := outcome
    · have failed : filling ≠ .success := fun success => nomatch granted.mpr success
      refine ⟨_, router.memory, ⟨filled.tool, filled.interface, filled.written, ?_⟩,
        .unprepared empty failed, ?_⟩
      · refine filled.memory.trans ?_
        rw [decide_eq_false failed, memory, empty]
      · exact iff_of_false nofun fun all => failed (all _ List.mem_cons_self)
    · obtain rfl : filling = .success := granted.mp rfl
      obtain ⟨result, ran, added⟩ := ran_install shell after (.rule network length)
      have whole := filled.trans ran
      rw [filled.tool, filled.interface, filled.memory, tool] at whole
      refine ⟨_, _, whole, .prepared empty result, ?_⟩
      rw [List.singleton_append, List.forall_mem_cons, List.forall_mem_singleton]
      exact added.trans (and_iff_right rfl).symm

/-- The course that a call takes. -/
theorem ran_answer (shell : Shell σ) (router : CommandRouter (σ × List Execution))
    (tool : router.tool = .iproute) (call : RouteCall) :
    ∃ executed remembered, Ran router (answer shell.recording router call).state
        executed remembered ∧
      Changes router.interface router.memory call executed remembered ∧
      ((answer shell.recording router call).result = .ok () ↔
        ∀ execution ∈ executed, execution.result = .success) := by
  have attempts {entry : Installed} (asked : call.wanted? = some entry)
      (free : entry.isRule = false) :
      ∃ executed remembered, Ran router (router.install shell.recording entry).1
          executed remembered ∧
        Changes router.interface router.memory call executed remembered ∧
        ((router.install shell.recording entry).2 = .ok () ↔
          ∀ execution ∈ executed, execution.result = .success) := by
    obtain ⟨result, ran, added⟩ := ran_install shell router entry
    refine ⟨_, _, ran, ?_, ?_⟩
    · rw [tool]
      exact .attempted asked (fun rule => nomatch free.symm.trans rule) result
    · rw [List.forall_mem_singleton]
      exact added
  cases call with
  | addHost address => exact attempts rfl rfl
  | addNetwork network length => exact attempts rfl rfl
  | addRule network length => exact ran_installRule shell router tool network length
  | removeAll family =>
      obtain ⟨executed, ran, commands, result⟩ := ran_removeAll shell router tool family
      exact ⟨executed, _, ran, .removed commands, result⟩

end Recorded

/-- A call, the commands that were run for it, and its result. -/
structure Exchange where
  call : RouteCall
  executed : List Execution
  result : Except RouteError Unit

/-- What is exchanged when a router is called. -/
def exchange (shell : Shell σ) (router : CommandRouter σ) (call : RouteCall) : Exchange where
  call := call
  executed := (answer shell.recording (router.withShell (router.shell, [])) call).state.shell.2
  result := (answer shell router call).result

/-- **What a call does.** -/
theorem changes_answer (shell : Shell σ) (router : CommandRouter σ)
    (tool : router.tool = .iproute) (call : RouteCall) :
    (answer shell router call).state.tool = .iproute ∧
      (answer shell router call).state.interface = router.interface ∧
      Changes router.interface router.memory call (router.exchange shell call).executed
        (answer shell router call).state.memory ∧
      ((router.exchange shell call).result = .ok () ↔
        ∀ execution ∈ (router.exchange shell call).executed, execution.result = .success) := by
  obtain ⟨executed, remembered, ran, changes, result⟩ :=
    ran_answer shell (router.withShell (router.shell, [])) tool call
  have same : answer shell router call = _ :=
    answer_recording shell (router.withShell (router.shell, [])) call
  have written : (router.exchange shell call).executed = executed := ran.written
  rw [written, exchange, same]
  refine ⟨ran.tool.trans tool, ran.interface, ?_, result⟩
  rw [← ran.memory] at changes
  exact changes

end CommandRouter

end FamilyGateway
