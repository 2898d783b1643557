import QueryLayer.Proofs.AdapterSelection
import QueryLayer.Proofs.MemoryTables
import QueryLayer.Proofs.RecordSaving

/-! # Requests to a memory store

An adapter that keeps tables answers each request from the table of the model that the request
starts from. What such a table holds after any number of requests depends on nothing but the
criteria that arrived at the adapter.
-/

set_option autoImplicit false

namespace QueryLayer

variable {P : Plugins}

def Validator.KeepsCriteria (v : Validator (Query P)) : Prop :=
  ∀ q, (v.effect q).criteria = q.criteria

def Outcome.Reaches {α : Type} (o : Outcome P α) (a : P.Adapter) (cs : Criteria) : Prop :=
  ∃ q, .dispatched a q ∈ o.events ∧ q.criteria = cs

/-- The adapter carries out the criteria it is handed on tables that it keeps in the store. -/
structure Behavior.Serves (engine : Pattern.Engine) (b : Behavior P) (a : P.Adapter)
    (tables : P.Store → Memory.Tables) : Prop where
  answer : ∀ q store,
    (b.dispatch a q store).1 = (Memory.serve engine q.criteria (tables store)).1
  left : ∀ q store,
    tables (b.dispatch a q store).2 = (Memory.serve engine q.criteria (tables store)).2

namespace Memory

variable (engine : Pattern.Engine)

structure Served (tables : P.Store → Tables) (cs : Criteria) (store : P.Store)
    (o : Outcome P (List Value)) : Prop where
  result : o.result = (serve engine cs (tables store)).1.mapError .adapter
  left : tables o.store = (serve engine cs (tables store)).2

/-! ## What reaches the adapter is served -/

variable {engine} {b : Behavior P} {a : P.Adapter} {tables : P.Store → Tables}

theorem criteria_effects {vs : List (Validator (Query P))} (hvs : ∀ v ∈ vs, v.KeepsCriteria)
    (q : Query P) : (Pipeline.effects vs q).criteria = q.criteria := by
  induction vs generalizing q with
  | nil => rfl
  | cons v rest ih =>
    obtain ⟨hv, hrest⟩ := List.forall_mem_cons.mp hvs
    rw [Pipeline.effects_cons, ih hrest, hv]

/-- A query arrives with its own criteria if no rule of it meddles with them. -/
theorem reaches_exec {ctx : Context P} {q handed : Query P} {store : P.Store}
    (hrules : ∀ rule ∈ q.rules, (b.queryRule rule).KeepsCriteria)
    (h : .dispatched a handed ∈ (q.exec b ctx store).events) :
    (q.exec b ctx store).Reaches a q.criteria := by
  obtain ⟨-, hhanded, -⟩ := Query.exec_of_dispatched h
  refine ⟨handed, h, ?_⟩
  rw [hhanded, criteria_effects (List.forall_mem_map.mpr hrules)]
  rfl

theorem served_exec (hb : b.Serves engine a tables) {q : Query P} {ctx : Context P}
    {store : P.Store} {cs : Criteria} (h : (q.exec b ctx store).Reaches a cs) :
    Served engine tables cs store (q.exec b ctx store) := by
  obtain ⟨handed, hmem, rfl⟩ := h
  obtain ⟨-, -, hexec⟩ := Query.exec_of_dispatched hmem
  rw [hexec]
  exact ⟨congrArg (Except.mapError ExecError.adapter) (hb.answer handed store),
    hb.left handed store⟩

theorem served_find (hb : b.Serves engine a tables) {m : Model P.RecordRule} {ctx : Context P}
    {store : P.Store} {cs : Criteria} (h : (m.find b ctx store).Reaches a cs) :
    Served engine tables cs store (m.find b ctx store) ∧
      ∃ start, ctx.resolver.resolveModel m.name = .ok start ∧
        cs = [.start start] ++ [.action ⟨.find, none⟩] := by
  cases hstart : ctx.resolver.resolveModel m.name with
  | error e =>
    obtain ⟨handed, hmem, -⟩ := h
    rw [Model.find, Model.query_of_error hstart] at hmem
    cases hmem
  | ok start =>
    have hfind : m.find b ctx store = (Model.started ctx start).find b ctx store := by
      rw [Model.find, Model.query_of_ok hstart]
    rw [hfind] at h ⊢
    refine ⟨served_exec hb h, start, rfl, ?_⟩
    obtain ⟨handed, hmem, rfl⟩ := h
    obtain ⟨-, hhanded, -⟩ := Query.exec_of_dispatched hmem
    rw [hhanded]
    rfl

theorem served_save (hb : b.Serves engine a tables) {m : Model P.RecordRule} {ctx : Context P}
    {r : Record} {store : P.Store} {cs : Criteria} (h : (m.save b ctx r store).1.Reaches a cs) :
    Served engine tables cs store (m.save b ctx r store).1 ∧
      ∃ start, ctx.resolver.resolveModel m.name = .ok start ∧
        cs = [.start start] ++
          [.action ⟨.create, some [(m.validate b ctx.predicates r).target.toValue]⟩] := by
  have hending := m.save_ending b ctx r store
  have hquiet : ∀ q, .dispatched a q ∉ (m.validate b ctx.predicates r).events :=
    Event.filterMap_dispatch?_eq_nil_iff.mp (m.dispatch?_validate b ctx.predicates r) a
  generalize m.validate b ctx.predicates r = checked at hending hquiet
  generalize m.save b ctx r store = saved at hending h
  obtain ⟨o, left⟩ := saved
  obtain ⟨handed, hmem, rfl⟩ := h
  -- the call of the adapter is the last event, and only of the endings that have its answer
  cases hending with
  | refused hpassed hstart hadapter hanswer | created hpassed hstart hadapter hanswer =>
    rcases List.mem_append.mp hmem with hmem | hmem
    · exact absurd hmem (hquiet handed)
    · cases List.mem_singleton.mp hmem
      refine ⟨⟨?_, hb.left _ store⟩, _, hstart, rfl⟩
      rw [← hb.answer, hanswer]
      rfl
  | stopped | rejected | unresolved | unserved => exact absurd hmem (hquiet handed)

/-! ## What is served, action by action -/

namespace Served

variable {cs : Criteria} {store : P.Store} {o : Outcome P (List Value)} {start : ModelRef}

theorem performed {action : Action} (h : Served engine tables (cs ++ [.action action]) store o)
    (hstart : cs.start? = some start) :
    o.result = (perform engine cs action (table (tables store) start.model)).1.mapError .adapter ∧
    ∀ k, table (tables o.store) k =
      if k = start.model then (perform engine cs action (table (tables store) start.model)).2
      else table (tables store) k := by
  have hstart' := (Criteria.start?_concat cs action).trans hstart
  have haction := Criteria.action?_concat cs action
  rw [← perform_concat]
  refine ⟨?_, fun k => ?_⟩
  · rw [h.result, answer_serve hstart' haction]
  · rw [h.left, table_serve_of_action hstart' haction]

/-- Whatever the action, only the table of the model is touched. -/
theorem frame {action : Action} (h : Served engine tables (cs ++ [.action action]) store o)
    (hstart : cs.start? = some start) {k : String} (hk : k ≠ start.model) :
    table (tables o.store) k = table (tables store) k :=
  ((h.performed hstart).2 k).trans (if_neg hk)

theorem kept {action : Action} (h : Served engine tables (cs ++ [.action action]) store o)
    (hstart : cs.start? = some start)
    (hperform : ∀ records, (perform engine cs action records).2 = records) (k : String) :
    table (tables o.store) k = table (tables store) k := by
  rw [(h.performed hstart).2, hperform]
  exact ite_eq_right_iff.mpr fun hk => congrArg (table (tables store)) hk.symm

theorem create {data : List Value}
    (h : Served engine tables (cs ++ [.action ⟨.create, some data⟩]) store o)
    (hstart : cs.start? = some start) :
    o.result = .ok data ∧ ∀ k, table (tables o.store) k =
      if k = start.model then table (tables store) start.model ++ data
      else table (tables store) k :=
  h.performed hstart

theorem find (h : Served engine tables (cs ++ [.action ⟨.find, none⟩]) store o)
    (hstart : cs.start? = some start) :
    (o.result = .ok (match cs.limit? with
      | some n => ((table (tables store) start.model).filter (fulfils engine cs)).take n
      | none => (table (tables store) start.model).filter (fulfils engine cs))) ∧
    ∀ k, table (tables o.store) k = table (tables store) k :=
  ⟨(h.performed hstart).1, h.kept hstart fun _ => rfl⟩

theorem count (h : Served engine tables (cs ++ [.action ⟨.count, none⟩]) store o)
    (hstart : cs.start? = some start) :
    (o.result = .ok [.uint (UInt64.ofNat
      ((table (tables store) start.model).filter (fulfils engine cs)).length)]) ∧
    ∀ k, table (tables o.store) k = table (tables store) k :=
  ⟨(h.performed hstart).1, h.kept hstart fun _ => rfl⟩

theorem remove (h : Served engine tables (cs ++ [.action ⟨.remove, none⟩]) store o)
    (hstart : cs.start? = some start) :
    o.result = .ok ((table (tables store) start.model).filter (fulfils engine cs)) ∧
    ∀ k, table (tables o.store) k =
      if k = start.model then
        (table (tables store) start.model).filter fun record => !fulfils engine cs record
      else table (tables store) k :=
  h.performed hstart

end Served

/-! ## Histories -/

inductive Request (P : Plugins) where
  | terminal (q : Query P) (kind : ActionKind) (data : Option Value)
  | save (m : Model P.RecordRule) (r : Record)
  | find (m : Model P.RecordRule)

def Request.run (b : Behavior P) (ctx : Context P) (store : P.Store) :
    Request P → Outcome P (List Value)
  | terminal q kind data => (q.action kind data).exec b ctx store
  | save m r => (m.save b ctx r store).1
  | find m => m.find b ctx store

theorem served_run (hb : b.Serves engine a tables) {ctx : Context P} {store : P.Store}
    {request : Request P} {cs : Criteria} (h : (request.run b ctx store).Reaches a cs) :
    Served engine tables cs store (request.run b ctx store) := by
  cases request with
  | terminal q kind data => exact served_exec hb h
  | save m r => exact (served_save hb h).1
  | find m => exact (served_find hb h).1

/-- Requests one after another, all of which reach the adapter, with the criteria that arrived. -/
inductive History (b : Behavior P) (a : P.Adapter) (initial : P.Store) :
    List Criteria → P.Store → Prop
  | start : History b a initial [] initial
  | request {asked : List Criteria} {store : P.Store} {cs : Criteria} (ctx : Context P)
    (request : Request P) :
    History b a initial asked store → (request.run b ctx store).Reaches a cs →
    History b a initial (asked ++ [cs]) (request.run b ctx store).store

theorem History.tables_eq (hb : b.Serves engine a tables) {initial store : P.Store}
    {asked : List Criteria} (h : History b a initial asked store) :
    tables store = replay engine asked (tables initial) := by
  induction h with
  | start => rfl
  | request ctx request _ hreaches ih =>
    rw [(served_run hb hreaches).left, ih, replay, replay, List.foldl_concat]

/-- After any history of requests, a table holds what was created and not removed later, and the
next request is answered from the table of its model. -/
theorem requests_after_history (engine : Pattern.Engine) (b : Behavior P) (a : P.Adapter)
    (tables : P.Store → Tables) (hb : b.Serves engine a tables) (initial store : P.Store)
    (asked : List Criteria) (h : History b a initial asked store) :
    (∀ k, table (tables store) k =
      (table (tables initial) k).filter (spared engine k asked) ++ remaining engine k asked) ∧
    (∀ (ctx : Context P) (q : Query P) (start : ModelRef) (before later : Criteria),
      q.criteria = before ++ .start start :: later → (∀ other, .start other ∉ before) →
      let records := table (tables store) start.model
      let selected := records.filter (fulfils engine q.criteria)
      (∀ record, fulfils engine q.criteria record = true ↔ ∀ c, .constraint c ∈ q.criteria →
        c.test (.builtin engine) (cell record c.left.attr) = some true) ∧
      (∀ data o, o = q.create b ctx data store →
        o.Reaches a (q.criteria ++ [.action ⟨.create, some data.toList⟩]) →
        o.result = .ok data.toList ∧ ∀ k, table (tables o.store) k =
          if k = start.model then records ++ data.toList else table (tables store) k) ∧
      (∀ o, o = q.find b ctx store →
        o.Reaches a (q.criteria ++ [.action ⟨.find, none⟩]) →
        ((∀ n, .limit n ∉ q.criteria) → o.result = .ok selected) ∧
        (∀ before n later, q.criteria = before ++ .limit n :: later → (∀ k, .limit k ∉ later) →
          o.result = .ok (selected.take n)) ∧
        ∀ k, table (tables o.store) k = table (tables store) k) ∧
      (∀ o, o = q.perform b ctx .count store →
        o.Reaches a (q.criteria ++ [.action ⟨.count, none⟩]) →
        o.result = .ok [.uint (UInt64.ofNat selected.length)] ∧
        ∀ k, table (tables o.store) k = table (tables store) k) ∧
      (∀ o, o = q.perform b ctx .remove store →
        o.Reaches a (q.criteria ++ [.action ⟨.remove, none⟩]) →
        o.result = .ok selected ∧
        (∀ k, table (tables o.store) k =
          if k = start.model then records.filter fun record => !fulfils engine q.criteria record
          else table (tables store) k) ∧
        ∀ ctx' o', o' = q.find b ctx' o.store →
          o'.Reaches a (q.criteria ++ [.action ⟨.find, none⟩]) → o'.result = .ok []) ∧
      ∀ kind data o, o = (q.action kind data).exec b ctx store →
        o.Reaches a (q.criteria ++ [.action ⟨kind, data.map Value.toList⟩]) →
        ∀ k, k ≠ start.model → table (tables o.store) k = table (tables store) k) ∧
    (∀ (ctx : Context P) (m : Model P.RecordRule) (r : Record) (o : Outcome P (List Value)) cs,
      o = (m.save b ctx r store).1 → o.Reaches a cs →
      let record := (m.validate b ctx.predicates r).target.toValue
      ∃ start, ctx.resolver.resolveModel m.name = .ok start ∧ o.result = .ok [record] ∧
        ∀ k, table (tables o.store) k =
          if k = start.model then table (tables store) start.model ++ [record]
          else table (tables store) k) ∧
    (∀ (ctx : Context P) (m : Model P.RecordRule) (o : Outcome P (List Value)) cs,
      o = m.find b ctx store → o.Reaches a cs →
      ∃ start, ctx.resolver.resolveModel m.name = .ok start ∧
        o.result = .ok (table (tables store) start.model) ∧
        ∀ k, table (tables o.store) k = table (tables store) k) ∧
    ∀ (ctx : Context P) (q : Query P) (kind : ActionKind) (data : Option Value) o handed,
      o = (q.action kind data).exec b ctx store → .dispatched a handed ∈ o.events →
      (∀ rule ∈ q.rules, (b.queryRule rule).KeepsCriteria) →
      o.Reaches a (q.criteria ++ [.action ⟨kind, data.map Value.toList⟩]) := by
  refine ⟨?_, ?_, ?_, ?_, ?_⟩
  · intro k
    rw [h.tables_eq hb, table_replay]
  · intro ctx q start before later hq hfirst records selected
    have hstart : q.criteria.start? = some start := Criteria.start?_of_first hq hfirst
    refine ⟨fun record => fulfils_iff engine, ?_, ?_, ?_, ?_, ?_⟩
    · rintro data o rfl ho
      exact (served_exec hb ho).create hstart
    · rintro o rfl ho
      obtain ⟨hresult, hkept⟩ := (served_exec hb ho).find hstart
      refine ⟨fun hnone => ?_, fun before n later hlimit hlast => ?_, hkept⟩
      · rw [Criteria.limit?_of_none hnone] at hresult
        exact hresult
      · rw [Criteria.limit?_of_last hlimit hlast] at hresult
        exact hresult
    · rintro o rfl ho
      exact (served_exec hb ho).count hstart
    · rintro o rfl ho
      obtain ⟨hresult, hleft⟩ := (served_exec hb ho).remove hstart
      refine ⟨hresult, hleft, ?_⟩
      rintro ctx' o' rfl ho'
      obtain ⟨hfound, -⟩ := (served_exec hb ho').find hstart
      have hrest : table (tables (q.perform b ctx .remove store).store) start.model =
          records.filter fun record => !fulfils engine q.criteria record :=
        (hleft start.model).trans (if_pos rfl)
      rw [hrest, filter_fulfils_rest] at hfound
      refine hfound.trans ?_
      cases q.criteria.limit? <;> simp
    · rintro kind data o rfl ho k hk
      exact (served_exec hb ho).frame hstart hk
  · rintro ctx m r o cs rfl ho record
    obtain ⟨hserved, start, hstart, rfl⟩ := served_save hb ho
    exact ⟨start, hstart, hserved.create rfl⟩
  · rintro ctx m o cs rfl ho
    obtain ⟨hserved, start, hstart, rfl⟩ := served_find hb ho
    obtain ⟨hresult, hkept⟩ := hserved.find rfl
    have hall : fulfils engine [.start start] = fun _ => true := rfl
    rw [hall, List.filter_true] at hresult
    exact ⟨start, hstart, hresult, hkept⟩
  · rintro ctx q kind data o handed rfl hdispatched hrules
    exact reaches_exec (q := q.action kind data) hrules hdispatched

/-! ## A store of users and posts -/

@[reducible] def plugins : Plugins := ⟨Unit, MessageRule, MessageRule, Unit, Tables⟩

def ageParam : Param where
  name := "age"
  typeName := "integer"
  operators := [.gte, .lte, .eq]
  checks := [⟨"gte", .int 0⟩]
  aliases := ["years"]

/-- The one adapter keeps the tables and declares the ages of users. -/
def behavior : Behavior plugins where
  adapterName _ := "memory"
  param _ ref := if ref.model = "user" ∧ ageParam.answersTo ref.attr then some ageParam else none
  dispatch _ q tables := serve .words q.criteria tables
  queryRule := MessageRule.validator
  recordRule := MessageRule.validator

theorem behavior_serves : behavior.Serves .words () id := ⟨fun _ _ => rfl, fun _ _ => rfl⟩

def context : Context plugins := (Context.ofConfig .words {}).useAdapter "memory" ()

def user (email : String) (age : Int64) : Value :=
  .map [("age", .int age), ("email", .text email)]

def users (more : Criteria) : Query plugins := { criteria := .start ⟨none, "user"⟩ :: more }

def aged (operator : Operator) (age : Int64) : Criterion :=
  .constraint ⟨⟨"memory", "user", "age", false⟩, operator, .int age⟩

def mailed (part : String) : Criterion :=
  .constraint ⟨⟨"memory", "user", "email", false⟩, .matching, .text part⟩

def post : Model plugins.RecordRule where
  name := "post"
  attrs := [{ name := "title", checks := [⟨"present", .null⟩] }]

def adults : Query plugins := users [aged .gte 18, mailed "com", .limit 2, .limit 1]

theorem selected_adults :
    [user "b@x.com" 30, user "c@y.com" 45, user "d@z.org" 50].filter
      (fulfils .words adults.criteria) = [user "b@x.com" 30, user "c@y.com" 45] := by
  have hb : fulfils .words adults.criteria (user "b@x.com" 30) = true := by decide +kernel
  have hc : fulfils .words adults.criteria (user "c@y.com" 45) = true := by decide +kernel
  have hd : fulfils .words adults.criteria (user "d@z.org" 50) = false := by decide +kernel
  rw [List.filter_cons_of_pos hb, List.filter_cons_of_pos hc, List.filter_cons, hd]
  rfl

theorem requests_after_saving :
    let seed := [user "a@x.com" 17, user "b@x.com" 30, user "c@y.com" 45, user "d@z.org" 50]
    let seeded := ((users []).create behavior context (.list seed) []).store
    let grown := ((users [aged .lte 20]).perform behavior context .remove seeded).store
    let store := (post.save behavior context (post.init [("title", .text "Hello")]) grown).1.store
    let q := adults
    table store "user" = [user "b@x.com" 30, user "c@y.com" 45, user "d@z.org" 50] ∧
      (q.find behavior context store).result = .ok [user "b@x.com" 30] ∧
      (q.perform behavior context .count store).result = .ok [.uint 2] ∧
      (q.perform behavior context .remove store).result =
        .ok [user "b@x.com" 30, user "c@y.com" 45] ∧
      (post.find behavior context store).result = .ok [.map [("title", .text "Hello")]] := by
  intro seed seeded grown store q
  have hseeded : History behavior () [] [[.start ⟨none, "user"⟩, .action ⟨.create, some seed⟩]]
      seeded :=
    .request context (.terminal (users []) .create (some (.list seed))) .start
      ⟨_, List.mem_singleton_self _, rfl⟩
  have hgrown : History behavior () []
      ([[.start ⟨none, "user"⟩, .action ⟨.create, some seed⟩]] ++
        [[.start ⟨none, "user"⟩, aged .lte 20, .action ⟨.remove, none⟩]]) grown :=
    .request context (.terminal (users [aged .lte 20]) .remove none) hseeded
      ⟨_, List.mem_singleton_self _, rfl⟩
  have hstore : History behavior () []
      ([[.start ⟨none, "user"⟩, .action ⟨.create, some seed⟩]] ++
        [[.start ⟨none, "user"⟩, aged .lte 20, .action ⟨.remove, none⟩]] ++
        [[.start ⟨none, "post"⟩,
          .action ⟨.create, some [.map [("title", .text "Hello")]]⟩]]) store :=
    .request context (.save post (post.init [("title", .text "Hello")])) hgrown
      ⟨_, List.mem_singleton_self _, rfl⟩
  obtain ⟨htable, hq, -, hpost, -⟩ :=
    requests_after_history .words behavior () id behavior_serves [] store _ hstore
  obtain ⟨-, -, hfind, hcount, hremove, -⟩ := hq context q ⟨none, "user"⟩ [] _ rfl nofun
  have husers : table store "user" =
      [user "b@x.com" 30, user "c@y.com" 45, user "d@z.org" 50] := htable "user"
  have hselected : (table store "user").filter (fulfils .words q.criteria) =
      [user "b@x.com" 30, user "c@y.com" 45] := by
    rw [husers]
    exact selected_adults
  obtain ⟨-, hlimited, -⟩ := hfind _ rfl ⟨_, List.mem_singleton_self _, rfl⟩
  have hfound :=
    hlimited [.start ⟨none, "user"⟩, aged .gte 18, mailed "com", .limit 2] 1 [] rfl nofun
  obtain ⟨hcounted, -⟩ := hcount _ rfl ⟨_, List.mem_singleton_self _, rfl⟩
  obtain ⟨hremoved, -⟩ := hremove _ rfl ⟨_, List.mem_singleton_self _, rfl⟩
  obtain ⟨start, hstart, hposts, -⟩ :=
    hpost context post _ _ rfl ⟨_, List.mem_singleton_self _, rfl⟩
  simp only [id_eq, hselected] at hfound hcounted hremoved
  refine ⟨husers, hfound, hcounted, hremoved, ?_⟩
  cases hstart
  rw [hposts]
  exact congrArg Except.ok (htable "post")

end Memory

end QueryLayer
