import FamilyGateway.Proofs.Routing.Calls
import FamilyGateway.Proofs.Routing.Executions
import Mathlib.Data.List.DropRight

/-!
# Removing takes back what was added

Whatever was asked of a router and however the commands ended, removing a family deletes what
was added for it since it was removed last, the latest entry first, and nothing else
(`CommandRouter.removeAll_undoes`). What was added is read off the commands that succeeded
(`outstanding`), so the router's own record is not taken for granted: it agrees with them
after every call (`Agrees.changes`).

Rules are of no use without the default route of the policy table. The commands about that
table come in an order that a single flag describes (`Orderly`): it is filled only if it is
empty, emptied only if it is filled, and rules are added only while it is filled.
-/

set_option autoImplicit false

namespace FamilyGateway.CommandRouter

variable {σ : Type} {interface : String}

/-! ## Commands that differ -/

theorem command_ne_fillCommand (interface : String) (entry : Installed) (action : RouteAction) :
    entry.command .iproute interface action ≠ fillCommand interface := by
  cases entry <;> simp [Installed.command, RouteTool.route, RouteTool.rule, fillCommand,
    RouteTool.fillPolicyTable]

theorem command_ne_emptyCommand (entry : Installed) (action : RouteAction) :
    entry.command .iproute interface action ≠ emptyCommand := by
  cases entry <;> simp [Installed.command, RouteTool.route, RouteTool.rule, emptyCommand,
    RouteTool.emptyPolicyTable]

theorem fillCommand_ne_emptyCommand : fillCommand interface ≠ emptyCommand := by
  simp [fillCommand, emptyCommand, RouteTool.fillPolicyTable, RouteTool.emptyPolicyTable]

/-- A command that adds a rule is of no other kind. -/
theorem rule_of_command_eq {entry : Installed} {action : RouteAction} {network : Address}
    {length : Nat} (same : entry.command .iproute interface action =
      (Installed.rule network length).command .iproute interface .add) :
    action = .add ∧ entry.isRule = true := by
  cases entry <;> cases action <;>
    simp_all [Installed.command, RouteTool.route, RouteTool.rule, RouteTool.ruleVerb,
      Installed.isRule]

/-! ## What was added -/

/-- What was added by an exchange: what its call asked for, if the command for it succeeded. -/
def Exchange.added (interface : String) (exchange : Exchange) : List Installed :=
  exchange.call.wanted?.toList.filter fun entry =>
    ⟨entry.command .iproute interface .add, .success⟩ ∈ exchange.executed

/-- The exchanges since a family was removed last. -/
def since (family : Family) (history : List Exchange) : List Exchange :=
  history.rtakeWhile fun exchange => exchange.call ≠ .removeAll family

/-- What was added for a family since it was removed last, the oldest entry first. -/
def outstanding (interface : String) (family : Family) (history : List Exchange) :
    List Installed :=
  ((since family history).flatMap (Exchange.added interface)).filter fun entry =>
    entry.family = family

/-- Whether the policy table was filled since IPv6 was removed last. -/
def filled (interface : String) (history : List Exchange) : Bool :=
  (since .inet6 history).any fun exchange =>
    ⟨fillCommand interface, .success⟩ ∈ exchange.executed

theorem since_concat_of_ne {family : Family} {exchange : Exchange}
    (other : exchange.call ≠ .removeAll family) (history : List Exchange) :
    since family (history ++ [exchange]) = since family history ++ [exchange] :=
  List.rtakeWhile_concat_pos _ _ _ (decide_eq_true other)

theorem since_concat_removeAll {family : Family} {exchange : Exchange}
    (removes : exchange.call = .removeAll family) (history : List Exchange) :
    since family (history ++ [exchange]) = [] :=
  List.rtakeWhile_concat_neg _ _ _ fun other => of_decide_eq_true other removes

/-- What a router remembers is what was added and not removed. -/
structure Agrees (interface : String) (history : List Exchange) (memory : Memory) : Prop where
  installed : ∀ family, (memory.installed.filter fun entry => entry.family = family) =
    outstanding interface family history
  table : memory.policyTableReady = filled interface history

/-- What an exchange adds is the entry of its call, or nothing. -/
theorem added_of_wanted? {exchange : Exchange} {entry : Installed}
    (asked : exchange.call.wanted? = some entry) :
    exchange.added interface =
      if ⟨entry.command .iproute interface .add, .success⟩ ∈ exchange.executed then [entry]
      else [] := by
  simp only [Exchange.added, asked, Option.toList_some, List.filter_singleton,
    Bool.cond_decide]

theorem noting_eq (memory : Memory) (entry : Installed) (result : CommandResult) :
    memory.noting entry result =
      ⟨memory.installed ++ if result = .success then [entry] else [],
        memory.policyTableReady⟩ := by
  unfold Memory.noting
  split
  next => rfl
  next => rw [List.append_nil]

/-- What is left of the entries of a family once a family was removed. -/
theorem filter_without (memory : Memory) (family other : Family) :
    ((memory.without family).installed.filter fun entry => entry.family = other) =
      if other = family then []
      else memory.installed.filter fun entry => entry.family = other := by
  rw [Memory.without, List.filter_filter]
  split
  next same =>
    rw [List.filter_eq_nil_iff]
    intro entry _
    simp [same]
  next different =>
    refine List.filter_congr fun entry _ => ?_
    rw [Bool.eq_iff_iff]
    simp only [Bool.and_eq_true, decide_eq_true_eq, and_iff_left_iff_imp]
    rintro rfl
    exact different

namespace Agrees

variable {history : List Exchange} {memory next : Memory}

theorem nothing (interface : String) : Agrees interface [] ⟨[], false⟩ := ⟨fun _ => rfl, rfl⟩

/-- An exchange that removes nothing adds to the record what it added. -/
theorem concat (agrees : Agrees interface history memory) {exchange : Exchange}
    (keeps : ∀ family, exchange.call ≠ .removeAll family)
    (installed : next.installed = memory.installed ++ exchange.added interface)
    (table : next.policyTableReady =
      (memory.policyTableReady ||
        decide (⟨fillCommand interface, .success⟩ ∈ exchange.executed))) :
    Agrees interface (history ++ [exchange]) next where
  installed family := by
    rw [installed, List.filter_append, agrees.installed, outstanding, outstanding,
      since_concat_of_ne (keeps family), List.flatMap_append, List.filter_append,
      List.flatMap_singleton]
  table := by
    rw [table, agrees.table, filled, filled, since_concat_of_ne (keeps .inet6), List.any_append,
      List.any_cons, List.any_nil, Bool.or_false]

/-- What is deleted or emptied fills nothing. -/
theorem fill_notMem_removal {family : Family} {executed : List Execution}
    (commands : executed.map Execution.command = removal interface memory family)
    (result : CommandResult) : ⟨fillCommand interface, result⟩ ∉ executed := by
  intro member
  have named := List.mem_map_of_mem (f := Execution.command) member
  rw [commands, removal, List.mem_append, List.mem_map] at named
  rcases named with ⟨entry, _, same⟩ | emptied
  · exact command_ne_fillCommand interface entry .delete same
  · split at emptied
    next => exact fillCommand_ne_emptyCommand (List.mem_singleton.mp emptied)
    next => exact List.not_mem_nil emptied

/-- Removing a family empties its part of the record and leaves the other part. -/
theorem removed (agrees : Agrees interface history memory) {family : Family}
    {executed : List Execution} (answer : Except RouteError Unit)
    (commands : executed.map Execution.command = removal interface memory family) :
    Agrees interface (history ++ [⟨.removeAll family, executed, answer⟩])
      (memory.without family) where
  installed other := by
    rw [filter_without, outstanding]
    split
    next same =>
      rw [since_concat_removeAll (congrArg RouteCall.removeAll same.symm)]
      rfl
    next different =>
      have differs : RouteCall.removeAll family ≠ .removeAll other :=
        fun same => different (RouteCall.removeAll.inj same).symm
      have nothing : Exchange.added interface ⟨.removeAll family, executed, answer⟩ = [] := rfl
      rw [since_concat_of_ne differs, List.flatMap_append, List.flatMap_singleton, nothing,
        List.append_nil, agrees.installed, outstanding]
  table := by
    rw [filled]
    cases family with
    | inet =>
        have differs : RouteCall.removeAll .inet ≠ .removeAll .inet6 := by decide
        rw [since_concat_of_ne differs, List.any_append, List.any_cons, List.any_nil,
          decide_eq_false (fill_notMem_removal commands .success), Bool.or_false, Bool.or_false,
          Memory.without, agrees.table, filled]
        exact Bool.and_true _
    | inet6 =>
        rw [since_concat_removeAll rfl]
        exact Bool.and_false _

/-- The record agrees with what was added after every call. -/
theorem changes (agrees : Agrees interface history memory) {exchange : Exchange}
    (changes : Changes interface memory exchange.call exchange.executed next) :
    Agrees interface (history ++ [exchange]) next := by
  obtain ⟨call, executed, answer⟩ := exchange
  have adds {entry : Installed} (asked : call.wanted? = some entry) (family : Family) :
      call ≠ .removeAll family := by
    rintro rfl
    cases asked
  cases changes with
  | @attempted _ entry asked _ result =>
      have other := (command_ne_fillCommand interface entry .add).symm
      refine agrees.concat (adds asked) ?_ ?_
      · rw [added_of_wanted? asked, noting_eq]
        simp [eq_comm]
      · rw [noting_eq]
        simp [other]
  | @unprepared network length result empty failed =>
      have other := command_ne_fillCommand interface (.rule network length) .add
      refine agrees.concat (adds rfl) ?_ ?_
      · rw [added_of_wanted? rfl]
        simp [other]
      · simp [empty, failed.symm]
  | @prepared network length empty result =>
      have other := command_ne_fillCommand interface (.rule network length) .add
      refine agrees.concat (adds rfl) ?_ ?_
      · rw [added_of_wanted? rfl, noting_eq]
        simp [other.symm, eq_comm]
      · rw [noting_eq]
        simp
  | @removed family _ commands => exact agrees.removed answer commands

end Agrees

/-! ## The policy table -/

/-- The commands that were run leave the policy table filled or empty, and respect which of both it
is. -/
inductive Orderly (interface : String) : Bool → List Execution → Bool → Prop where
  | nil (ready : Bool) : Orderly interface ready [] ready
  /-- The table is filled if it is empty, and stays empty if that fails. -/
  | fill (result : CommandResult) {rest : List Execution} {last : Bool}
      (later : Orderly interface (decide (result = .success)) rest last) :
      Orderly interface false (⟨fillCommand interface, result⟩ :: rest) last
  /-- The table is emptied if it is filled, and counts as empty even if that fails. -/
  | empty (result : CommandResult) {rest : List Execution} {last : Bool}
      (later : Orderly interface false rest last) :
      Orderly interface true (⟨emptyCommand, result⟩ :: rest) last
  /-- Entries come and go, but rules are added only while the table is filled. -/
  | entry {ready : Bool} (entry : Installed) (action : RouteAction)
      (prepared : action = .add → entry.isRule = true → ready = true) (result : CommandResult)
      {rest : List Execution} {last : Bool} (later : Orderly interface ready rest last) :
      Orderly interface ready (⟨entry.command .iproute interface action, result⟩ :: rest) last

namespace Orderly

variable {first middle last : Bool} {before after executed : List Execution}

theorem append (earlier : Orderly interface first before middle)
    (later : Orderly interface middle after last) :
    Orderly interface first (before ++ after) last := by
  induction earlier with
  | nil ready => exact later
  | fill result _ ih => exact .fill result (ih later)
  | empty result _ ih => exact .empty result (ih later)
  | entry entry action prepared result _ ih => exact .entry entry action prepared result (ih later)

theorem split (orderly : Orderly interface first (before ++ after) last) :
    ∃ middle, Orderly interface first before middle ∧ Orderly interface middle after last := by
  induction before generalizing first with
  | nil => exact ⟨first, .nil first, orderly⟩
  | cons execution before ih =>
      cases orderly with
      | fill result later =>
          obtain ⟨middle, earlier, later⟩ := ih later
          exact ⟨middle, .fill result earlier, later⟩
      | empty result later =>
          obtain ⟨middle, earlier, later⟩ := ih later
          exact ⟨middle, .empty result earlier, later⟩
      | entry entry action prepared result later =>
          obtain ⟨middle, earlier, later⟩ := ih later
          exact ⟨middle, .entry entry action prepared result earlier, later⟩

theorem deletions {entries : List Installed} (ready : Bool)
    (commands : executed.map Execution.command =
      entries.map (Installed.command .iproute interface .delete)) :
    Orderly interface ready executed ready := by
  induction entries generalizing executed with
  | nil =>
      rw [List.map_nil, List.map_eq_nil_iff] at commands
      rw [commands]
      exact .nil ready
  | cons entry entries ih =>
      rw [List.map_cons, List.map_eq_cons_iff] at commands
      obtain ⟨⟨command, result⟩, rest, rfl, rfl, commands⟩ := commands
      exact .entry entry .delete nofun result (ih commands)

/-- What is run for a call respects what the router remembers of the table. -/
theorem of_changes {memory next : Memory} {call : RouteCall}
    (changes : Changes interface memory call executed next) :
    Orderly interface memory.policyTableReady executed next.policyTableReady := by
  cases changes with
  | @attempted _ entry _ prepared result =>
      rw [noting_eq]
      exact .entry entry .add (fun _ => prepared) result (.nil _)
  | unprepared empty failed =>
      rw [empty]
      refine .fill _ ?_
      rw [decide_eq_false failed]
      exact .nil _
  | @prepared network length empty result =>
      rw [empty, noting_eq]
      exact .fill .success (.entry (.rule network length) .add (fun _ _ => rfl) result (.nil true))
  | @removed family _ commands =>
      obtain ⟨deleted, emptied, rfl, deletes, empties⟩ := List.map_eq_append_iff.mp commands
      refine (deletions memory.policyTableReady deletes).append ?_
      rw [Memory.without]
      split at empties
      next both =>
        obtain ⟨rfl, ready⟩ := both
        obtain ⟨⟨command, result⟩, rfl, rfl⟩ := List.map_eq_singleton_iff.mp empties
        rw [ready]
        exact .empty result (.nil false)
      next neither =>
        obtain rfl := List.map_eq_nil_iff.mp empties
        -- Nothing is emptied: the table stays filled, or it was empty before.
        have same : (memory.policyTableReady && decide (family ≠ .inet6)) =
            memory.policyTableReady := by
          cases ready : memory.policyTableReady with
          | false => rfl
          | true => exact decide_eq_true fun six => neither ⟨six, ready⟩
        rw [same]
        exact .nil _

/-- If the table is filled at the end and was not at the beginning, it was filled and has not been
emptied since. -/
theorem exists_fill (orderly : Orderly interface first executed last) (ready : last = true) :
    (first = true ∧ ∀ execution ∈ executed, execution.command ≠ emptyCommand) ∨
      ∃ earlier later, executed = earlier ++ ⟨fillCommand interface, .success⟩ :: later ∧
        ∀ execution ∈ later, execution.command ≠ emptyCommand := by
  induction orderly with
  | nil => exact .inl ⟨ready, List.forall_mem_nil _⟩
  | @fill result rest _ _ ih =>
      rcases ih ready with ⟨success, none⟩ | ⟨earlier, later, rfl, none⟩
      · obtain rfl := of_decide_eq_true success
        exact .inr ⟨[], rest, rfl, none⟩
      · exact .inr ⟨_ :: earlier, later, rfl, none⟩
  | empty result _ ih =>
      rcases ih ready with ⟨wrong, _⟩ | ⟨earlier, later, rfl, none⟩
      · exact absurd wrong Bool.false_ne_true
      · exact .inr ⟨_ :: earlier, later, rfl, none⟩
  | entry entry action _ result _ ih =>
      rcases ih ready with ⟨first, none⟩ | ⟨earlier, later, rfl, none⟩
      · exact .inl ⟨first, List.forall_mem_cons.mpr ⟨command_ne_emptyCommand entry action, none⟩⟩
      · exact .inr ⟨_ :: earlier, later, rfl, none⟩

/-- If the table was filled at the beginning and is not at the end, it was emptied. -/
theorem exists_empty (orderly : Orderly interface first executed last) (began : first = true)
    (ends : last = false) : ∃ execution ∈ executed, execution.command = emptyCommand := by
  induction orderly with
  | nil => exact absurd (began.symm.trans ends) Bool.noConfusion
  | fill => exact absurd began Bool.false_ne_true
  | empty => exact ⟨_, List.mem_cons_self, rfl⟩
  | entry _ _ _ _ _ ih =>
      obtain ⟨execution, member, empties⟩ := ih began ends
      exact ⟨execution, List.mem_cons_of_mem _ member, empties⟩

/-- Rules are added only while the table is filled. -/
theorem ready_of_rule {execution : Execution} {network : Address} {length : Nat}
    (orderly : Orderly interface first (execution :: after) last)
    (adds : execution.command = (Installed.rule network length).command .iproute interface .add) :
    first = true := by
  cases orderly with
  | fill => exact absurd adds.symm (command_ne_fillCommand _ _ _)
  | empty => rfl
  | entry entry action prepared =>
      obtain ⟨added, rule⟩ := rule_of_command_eq adds
      exact prepared added rule

/-- The table is filled only if it is empty. -/
theorem empty_of_fill (orderly : Orderly interface first
      (⟨fillCommand interface, .success⟩ :: after) last) :
    first = false ∧ Orderly interface true after last := by
  generalize filling : (⟨fillCommand interface, .success⟩ : Execution) = execution at orderly
  cases orderly with
  | fill result later =>
      cases filling
      exact ⟨rfl, later⟩
  | empty => exact absurd (congrArg Execution.command filling) fillCommand_ne_emptyCommand
  | entry entry action =>
      exact absurd (congrArg Execution.command filling).symm (command_ne_fillCommand _ _ _)

end Orderly

/-! ## Courses of calls -/

/-- The router after some calls, the first one first. -/
def reached (shell : Shell σ) (interface : String) (start : σ) (calls : List RouteCall) :
    CommandRouter σ :=
  Router.after (answer shell) (.fresh .iproute interface start) calls

/-- What was exchanged in some calls, the first one first. -/
def history (shell : Shell σ) : CommandRouter σ → List RouteCall → List Exchange
  | _, [] => []
  | router, call :: calls =>
    router.exchange shell call :: history shell (answer shell router call).state calls

section Course

variable (shell : Shell σ) (interface : String) (start : σ)

theorem reached_concat (calls : List RouteCall) (call : RouteCall) :
    reached shell interface start (calls ++ [call]) =
      (answer shell (reached shell interface start calls) call).state := by
  simp only [reached, Router.after, List.foldl_append, List.foldl_cons, List.foldl_nil]

theorem history_concat (router : CommandRouter σ) (calls : List RouteCall) (call : RouteCall) :
    history shell router (calls ++ [call]) =
      history shell router calls ++
        [(Router.after (answer shell) router calls).exchange shell call] := by
  induction calls generalizing router with
  | nil => rfl
  | cons first calls ih => exact congrArg (_ :: ·) (ih _)

/-- What holds after every course of calls. -/
structure Keeps (interface : String) (router : CommandRouter σ) (past : List Exchange) : Prop where
  tool : router.tool = .iproute
  named : router.interface = interface
  agrees : Agrees interface past router.memory
  orderly : Orderly interface false (past.flatMap Exchange.executed) router.policyTableReady

variable {shell interface start}

theorem Keeps.step {router : CommandRouter σ} {past : List Exchange}
    (keeps : Keeps interface router past) (shell : Shell σ) (call : RouteCall) :
    Keeps interface (answer shell router call).state (past ++ [router.exchange shell call]) := by
  obtain ⟨tool, same, changes, _⟩ := changes_answer shell router keeps.tool call
  rw [keeps.named] at same changes
  refine ⟨tool, same, keeps.agrees.changes changes, ?_⟩
  rw [List.flatMap_append, List.flatMap_singleton]
  exact keeps.orderly.append (.of_changes changes)

variable (shell interface start)

theorem keeps_reached (calls : List RouteCall) :
    Keeps interface (reached shell interface start calls)
      (history shell (.fresh .iproute interface start) calls) := by
  induction calls using List.reverseRecOn with
  | nil => exact ⟨rfl, rfl, .nothing interface, .nil false⟩
  | append_singleton calls call ih =>
      rw [reached_concat, history_concat]
      exact ih.step shell call

end Course

/-! ## Undoing -/

/-- Removing a family takes back what was added for it. -/
structure Undoes (shell : Shell σ) (interface : String) (past : List Exchange)
    (router : CommandRouter σ) (family : Family) : Prop where
  /-- The latest entry is deleted first, and the policy table is emptied at the end if it was
  filled. -/
  executes : (router.exchange shell (.removeAll family)).executed.map Execution.command =
    (outstanding interface family past).reverse.map
        (Installed.command .iproute interface .delete) ++
      if family = .inet6 ∧ filled interface past then [emptyCommand] else []
  result : (router.exchange shell (.removeAll family)).result = .ok () ↔
    ∀ execution ∈ (router.exchange shell (.removeAll family)).executed,
      execution.result = .success
  /-- Everything else stays in the record, in its order. -/
  record : (answer shell router (.removeAll family)).state.installed =
    router.installed.filter fun entry => entry.family ≠ family
  /-- There is nothing left to take back. -/
  again : ((answer shell router (.removeAll family)).state.exchange shell
      (.removeAll family)).executed = [] ∧
    ((answer shell router (.removeAll family)).state.exchange shell
      (.removeAll family)).result = .ok ()

/-- What is run when a family is removed is determined by what is remembered. -/
theorem Changes.of_removeAll {memory next : Memory} {family : Family}
    {executed : List Execution}
    (changes : Changes interface memory (.removeAll family) executed next) :
    executed.map Execution.command = removal interface memory family ∧
      next = memory.without family := by
  cases changes with
  | attempted asked => cases asked
  | removed commands => exact ⟨commands, rfl⟩

theorem Keeps.executes {router : CommandRouter σ} {past : List Exchange}
    (keeps : Keeps interface router past) (shell : Shell σ) (family : Family) :
    (router.exchange shell (.removeAll family)).executed.map Execution.command =
        (outstanding interface family past).reverse.map
            (Installed.command .iproute interface .delete) ++
          (if family = .inet6 ∧ filled interface past then [emptyCommand] else []) ∧
      (answer shell router (.removeAll family)).state.memory = router.memory.without family ∧
      ((router.exchange shell (.removeAll family)).result = .ok () ↔
        ∀ execution ∈ (router.exchange shell (.removeAll family)).executed,
          execution.result = .success) := by
  obtain ⟨_, _, changes, result⟩ := changes_answer shell router keeps.tool (.removeAll family)
  rw [keeps.named] at changes
  obtain ⟨commands, remembered⟩ := changes.of_removeAll
  rw [commands, removal, keeps.agrees.installed, keeps.agrees.table]
  exact ⟨rfl, remembered, result⟩

/-- Nothing is outstanding right after a family was removed. -/
theorem outstanding_removed {family : Family} {exchange : Exchange} (interface : String)
    (past : List Exchange)
    (removes : exchange.call = .removeAll family) :
    outstanding interface family (past ++ [exchange]) = [] ∧
      ¬ (family = .inet6 ∧ filled interface (past ++ [exchange]) = true) := by
  refine ⟨by rw [outstanding, since_concat_removeAll removes]; rfl, ?_⟩
  rintro ⟨rfl, wrong⟩
  rw [filled, since_concat_removeAll removes] at wrong
  exact absurd wrong Bool.false_ne_true

theorem Keeps.undoes {router : CommandRouter σ} {past : List Exchange}
    (keeps : Keeps interface router past) (shell : Shell σ) (family : Family) :
    Undoes shell interface past router family := by
  obtain ⟨executes, remembered, result⟩ := keeps.executes shell family
  refine ⟨executes, result, congrArg Memory.installed remembered, ?_⟩
  obtain ⟨commands, _, again⟩ := (keeps.step shell (.removeAll family)).executes shell family
  obtain ⟨none, empty⟩ := outstanding_removed interface past
    (show (router.exchange shell (.removeAll family)).call = .removeAll family from rfl)
  rw [none, if_neg empty] at commands
  have silent := List.map_eq_nil_iff.mp commands
  rw [silent] at again
  exact ⟨silent, again.mpr (List.forall_mem_nil _)⟩

/-- **Removing a family undoes exactly what was added for it**, whatever was asked before and
however the commands ended. In all that was ever run, a rule is added only when the default route
of the policy table was set up and the table was not emptied since, and the default route is not
set up twice unless the table was emptied in between. -/
theorem removeAll_undoes (shell : Shell σ) (interface : String) (start : σ)
    (calls : List RouteCall) :
    (∀ family, Undoes shell interface (history shell (.fresh .iproute interface start) calls)
      (reached shell interface start calls) family) ∧
    (∀ before execution after network length,
      (history shell (.fresh .iproute interface start) calls).flatMap Exchange.executed =
        before ++ execution :: after →
      execution.command = (Installed.rule network length).command .iproute interface .add →
        ∃ earlier later, before = earlier ++ ⟨fillCommand interface, .success⟩ :: later ∧
          ∀ other ∈ later, other.command ≠ emptyCommand) ∧
    ∀ before between after,
      (history shell (.fresh .iproute interface start) calls).flatMap Exchange.executed =
        before ++ ⟨fillCommand interface, .success⟩ ::
          (between ++ ⟨fillCommand interface, .success⟩ :: after) →
        ∃ execution ∈ between, execution.command = emptyCommand := by
  have keeps := keeps_reached shell interface start calls
  refine ⟨keeps.undoes shell, ?_, ?_⟩
  · intro before execution after network length split adds
    -- The table is filled when the rule is added, and it was not when the first call came.
    have orderly := keeps.orderly
    rw [split] at orderly
    obtain ⟨middle, earlier, later⟩ := orderly.split
    rcases earlier.exists_fill (later.ready_of_rule adds) with ⟨wrong, _⟩ | found
    · exact absurd wrong Bool.false_ne_true
    · exact found
  · intro before between after split
    -- The table is filled behind the first of both commands, and empty in front of the second.
    have orderly := keeps.orderly
    rw [split] at orderly
    obtain ⟨_, _, later⟩ := orderly.split
    obtain ⟨_, earlier, later⟩ := later.empty_of_fill.2.split
    exact earlier.exists_empty rfl later.empty_of_fill.1

/-- A rule that could not be added is not deleted, and the table that was filled for it is not
filled again for the next one. -/
example :
    (history (fun count _ => (count + 1, if count = 1 then .failure [] else .success))
      (.fresh .iproute "tun646" 0)
      [.addRule (.v6 ⟨⟨0x2001, 0xdb8, 0, 0, 0, 0⟩, ⟨0, 0, 0, 1⟩⟩) 128,
        .addRule (.v6 ⟨⟨0x2001, 0xdb8, 0, 0, 0, 0⟩, ⟨0, 0, 0, 2⟩⟩) 128,
        .removeAll .inet6]).map (fun exchange =>
          exchange.executed.map fun execution => execution.command.arguments.take 3) =
      [[["-6", "route", "replace"], ["-6", "rule", "add"]], [["-6", "rule", "add"]],
        [["-6", "rule", "del"], ["-6", "route", "flush"]]] := rfl

end FamilyGateway.CommandRouter
