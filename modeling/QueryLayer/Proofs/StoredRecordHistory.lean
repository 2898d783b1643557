import QueryLayer.Proofs.StoredRecord

/-! # Stored records over time

Stored records are validated and saved as records are. If rules do the same to both, both pass and
fail together and are left in step; and whatever the rules are, as long as they only change messages
and set attributes, a stored record keeps the attributes of its model and nothing else. Main
statements: `Represents.save`, `stays_in_step`.
-/

set_option autoImplicit false

namespace QueryLayer

variable {P : Plugins}

namespace StoredRecord

/-! ## Validating and saving -/

variable (rules : P.RecordRule → Validator StoredRecord)

def attributeChecks (m : Model P.RecordRule) (ps : Predicates) : List (Validator StoredRecord) :=
  if m.attrs.all fun a => a.checks.isEmpty then []
  else
    [.check fun s =>
      HasMessages.reportAll (m.attrs.flatMap fun a => a.issuesOf ps (s.get a.name)) s]

def validate (s : StoredRecord) (m : Model P.RecordRule) (ps : Predicates) :
    Validated P StoredRecord :=
  let checks := attributeChecks m ps
  let run := Pipeline.run (checks ++ m.rules.map rules) { s with messages := [] }
  { outcome := run.outcome
    target := run.target
    events := (m.rules.zip (run.trail.drop checks.length)).map fun (rule, seen) =>
      .recordRule rule seen.messages }

def save (b : Behavior P) (s : StoredRecord) (m : Model P.RecordRule) (ctx : Context P)
    (store : P.Store) : Outcome P (List Value) × StoredRecord :=
  let checked := s.validate rules m ctx.predicates
  let s := checked.target
  match checked.answer with
  | .error e => (⟨.error (.pipeline e), store, checked.events⟩, s)
  | .ok false => (⟨.error (.rejected s.messages), store, checked.events⟩, s)
  | .ok true =>
    match m.query ctx with
    | .error e => (⟨.error (.query e), store, checked.events⟩, s)
    | .ok q =>
      let o := (q.create b ctx s.toValue store).after checked.events
      match o.result with
      | .error _ => (o, s)
      | .ok _ => (o, s.clearDirty)

theorem target_save (b : Behavior P) (s : StoredRecord) (m : Model P.RecordRule) (ctx : Context P)
    (store : P.Store) :
    (s.save rules b m ctx store).2 = (s.validate rules m ctx.predicates).target ∨
      (s.save rules b m ctx store).2 = (s.validate rules m ctx.predicates).target.clearDirty := by
  rw [save]
  split
  · exact .inl rfl
  · exact .inl rfl
  · split
    · exact .inl rfl
    · dsimp only
      split
      · exact .inl rfl
      · exact .inr rfl

section Represents

variable {rules} {s : StoredRecord} {r : Record}

theorem simulates_attributeChecks (m : Model P.RecordRule) (ps : Predicates) :
    List.Forall₂ (Validator.Simulates Represents) (attributeChecks m ps)
      (m.attributeChecks ps) := by
  rw [attributeChecks, Model.attributeChecks]
  split
  · exact .nil
  · refine .cons (fun s r h => ⟨rfl, ?_⟩) .nil
    have hissues : (m.attrs.flatMap fun a => a.issuesOf ps (s.get a.name)) = m.issues ps r := by
      simp only [h.get, Model.issues, Attr.issues]
    rw [Model.attributeCheck, Validator.effect_check, Validator.effect_check, hissues]
    have hmessages : HasMessages.messages s = HasMessages.messages r := h.messages
    rw [HasMessages.reportAll, HasMessages.reportAll, hmessages]
    exact h.setMessages _

theorem events_eq {trail : List StoredRecord} {trail' : List Record}
    (h : List.Forall₂ Represents trail trail') (names : List P.RecordRule) :
    ((names.zip trail).map fun (rule, seen) => Event.recordRule (P := P) rule seen.messages) =
      (names.zip trail').map fun (rule, seen) => .recordRule rule seen.messages := by
  induction h generalizing names with
  | nil => simp
  | cons hseen _ ih =>
    cases names with
    | nil => rfl
    | cons name rest =>
      exact congrArg₂ List.cons (congrArg (Event.recordRule name) hseen.messages) (ih rest)

theorem Represents.validate {b : Behavior P}
    (hrules : ∀ rule, (rules rule).Simulates Represents (b.recordRule rule)) (h : s.Represents r)
    (m : Model P.RecordRule) (ps : Predicates) :
    let checked := s.validate rules m ps
    let checked' := m.validate b ps r
    checked.outcome = checked'.outcome ∧ checked.target.Represents checked'.target ∧
      checked.events = checked'.events := by
  have hchecks := simulates_attributeChecks m ps
  have hall : List.Forall₂ (Validator.Simulates Represents)
      (attributeChecks m ps ++ m.rules.map rules)
      (m.attributeChecks ps ++ m.rules.map b.recordRule) := by
    refine List.rel_append hchecks ?_
    rw [List.forall₂_map_left_iff, List.forall₂_map_right_iff, List.forall₂_same]
    exact fun rule _ => hrules rule
  obtain ⟨houtcome, htarget, htrail⟩ := Pipeline.runFrom_simulates hall (h.setMessages []) 0
  refine ⟨houtcome, htarget, ?_⟩
  rw [StoredRecord.validate, Model.validate, hchecks.length_eq]
  exact events_eq (List.forall₂_drop _ htrail) m.rules

theorem Represents.save {b : Behavior P}
    (hrules : ∀ rule, (rules rule).Simulates Represents (b.recordRule rule)) (h : s.Represents r)
    (m : Model P.RecordRule) (ctx : Context P) (store : P.Store) :
    (s.save rules b m ctx store).1 = (m.save b ctx r store).1 ∧
      (s.save rules b m ctx store).2.Represents (m.save b ctx r store).2 := by
  obtain ⟨houtcome, htarget, hevents⟩ := h.validate hrules m ctx.predicates
  rw [StoredRecord.save, Model.save]
  generalize s.validate rules m ctx.predicates = checked at houtcome htarget hevents ⊢
  generalize m.validate b ctx.predicates r = checked' at houtcome htarget hevents ⊢
  have hanswer : checked.answer = checked'.answer := by
    have hmessages : HasMessages.messages checked.target = HasMessages.messages checked'.target :=
      htarget.messages
    rw [Validated.answer, Validated.answer, houtcome, HasMessages.isValid, HasMessages.isValid,
      hmessages]
  simp only [hanswer, hevents, htarget.messages, htarget.toValue]
  cases checked'.answer with
  | error e => exact ⟨rfl, htarget⟩
  | ok valid =>
    cases valid with
    | false => exact ⟨rfl, htarget⟩
    | true =>
      cases m.query ctx with
      | error e => exact ⟨rfl, htarget⟩
      | ok q =>
        dsimp only
        cases ((q.create b ctx checked'.target.toValue store).after checked'.events).result with
        | error cause => exact ⟨rfl, htarget⟩
        | ok records => exact ⟨rfl, htarget.clearDirty⟩

end Represents

/-! ## Everything that can be reached -/

inductive Edit : StoredRecord → StoredRecord → Prop where
  | messages (s : StoredRecord) (messages : List String) : Edit s { s with messages := messages }
  | assign (s : StoredRecord) (name : String) (v : Value) : Edit s (s.assign name v).1

theorem Represents.edits {s t : StoredRecord} {r : Record} (h : s.Represents r)
    (hedits : Relation.ReflTransGen Edit s t) :
    ∃ r', Relation.ReflTransGen Record.Edit r r' ∧ t.Represents r' := by
  induction hedits with
  | refl => exact ⟨r, .refl, h⟩
  | tail _ hedit ih =>
    obtain ⟨r', hbefore, hr'⟩ := ih
    cases hedit with
    | messages messages => exact ⟨_, hbefore.tail (.messages r' messages), hr'.setMessages messages⟩
    | assign name v => exact ⟨_, hbefore.tail (.set r' name v), (hr'.assign name v).2⟩

theorem edits_validate (hrules : ∀ rule, (rules rule).Follows Edit) (s : StoredRecord)
    (m : Model P.RecordRule) (ps : Predicates) :
    Relation.ReflTransGen Edit s (s.validate rules m ps).target := by
  have hvs : ∀ v ∈ attributeChecks m ps ++ m.rules.map rules, v.Follows Edit := by
    intro v hv
    rcases List.mem_append.mp hv with hv | hv
    · rw [attributeChecks] at hv
      split at hv
      · cases hv
      · rw [List.mem_singleton.mp hv]
        exact fun s => .single (.messages s _)
    · obtain ⟨rule, -, rfl⟩ := List.mem_map.mp hv
      exact hrules rule
  exact .head (.messages s []) (Pipeline.follows_run hvs { s with messages := [] })

inductive Reached (b : Behavior P) (m : Model P.RecordRule) : StoredRecord → Prop where
  | init (pairs : List (String × Value)) : Reached b m (m.initStored pairs)
  | assign {s : StoredRecord} (name : String) (v : Value) :
    Reached b m s → Reached b m (s.assign name v).1
  | clearDirty {s : StoredRecord} : Reached b m s → Reached b m s.clearDirty
  | validate {s : StoredRecord} (other : Model P.RecordRule) (ps : Predicates) :
    Reached b m s → Reached b m (s.validate rules other ps).target
  | save {s : StoredRecord} (other : Model P.RecordRule) (ctx : Context P) (store : P.Store) :
    Reached b m s → Reached b m (s.save rules b other ctx store).2

section Reached

variable {rules} {b : Behavior P} {m : Model P.RecordRule} {s : StoredRecord}

/-- Some record of the model is in step with what was reached. -/
theorem Reached.represents (hrules : ∀ rule, (rules rule).Follows Edit) (hm : m.Declared)
    (h : Reached rules b m s) : ∃ r : Record, r.Fits m ∧ s.Represents r := by
  -- whatever edits a stored record edits the record in step with it
  have hchecked : ∀ {s : StoredRecord} (other : Model P.RecordRule) (ps : Predicates),
      (∃ r : Record, r.Fits m ∧ s.Represents r) →
      ∃ r : Record, r.Fits m ∧ (s.validate rules other ps).target.Represents r := by
    rintro s other ps ⟨r, hfits, hr⟩
    obtain ⟨r', hedits, hr'⟩ := hr.edits (edits_validate rules hrules s other ps)
    exact ⟨r', hfits.edits hedits, hr'⟩
  induction h with
  | init pairs => exact ⟨m.init pairs, .init hm.nodup_names pairs, .init m pairs⟩
  | assign name v _ ih =>
    obtain ⟨r, hfits, hr⟩ := ih
    exact ⟨r.set name v, hfits.set name v, (hr.assign name v).2⟩
  | clearDirty _ ih =>
    obtain ⟨r, hfits, hr⟩ := ih
    exact ⟨r.clearDirty, hfits.clearDirty, hr.clearDirty⟩
  | validate other ps _ ih => exact hchecked other ps ih
  | @save s other ctx store _ ih =>
    obtain ⟨r, hfits, hr⟩ := hchecked other ctx.predicates ih
    rcases target_save rules b s other ctx store with htarget | htarget
    · rw [htarget]
      exact ⟨r, hfits, hr⟩
    · rw [htarget]
      exact ⟨r.clearDirty, hfits.clearDirty, hr.clearDirty⟩

/-- If the rules do the same to both, what was reached is in step with a record that is reached. -/
theorem Reached.exists_reached
    (hrules : ∀ rule, (rules rule).Simulates Represents (b.recordRule rule))
    (h : Reached rules b m s) : ∃ r, Record.Reached b m r ∧ s.Represents r := by
  induction h with
  | init pairs => exact ⟨_, .init pairs, .init m pairs⟩
  | assign name v _ ih =>
    obtain ⟨r, hreached, hr⟩ := ih
    exact ⟨_, hreached.set name v, (hr.assign name v).2⟩
  | clearDirty _ ih =>
    obtain ⟨r, hreached, hr⟩ := ih
    exact ⟨_, hreached.clearDirty, hr.clearDirty⟩
  | validate other ps _ ih =>
    obtain ⟨r, hreached, hr⟩ := ih
    exact ⟨_, hreached.validate other ps, (hr.validate hrules other ps).2.1⟩
  | save other ctx store _ ih =>
    obtain ⟨r, hreached, hr⟩ := ih
    exact ⟨_, hreached.save other ctx store, (hr.save hrules other ctx store).2⟩

end Reached

namespace Represents

variable {ρ : Type} {m : Model ρ} {s : StoredRecord} {r : Record}

theorem mem_keys_attrs_iff (h : s.Represents r) (hfits : r.Fits m) (name : String) :
    name ∈ Entries.keys s.attrs ↔ name ∈ m.names := by
  rw [h.attrs_eq, Record.keys_attrs, hfits.mem_keys_iff]

theorem keys_defaults (h : s.Represents r) : Entries.keys s.defaults = Entries.keys s.attrs := by
  have hmem : ∀ name, name ∈ Entries.keys s.defaults ↔ name ∈ Entries.keys s.attrs := by
    intro name
    rw [← Entries.isSome_find?_iff, ← Entries.isSome_find?_iff, h.defaults, h.attrs,
      Option.isSome_map, Option.isSome_map]
  exact (Entries.sorted_iff.mp h.sortedDefaults).eq_of_mem_iff
    (Entries.sorted_iff.mp h.sortedAttrs) hmem

/-- A declared attribute has its initial value and a value, which is `null` only if that is. -/
theorem of_mem (h : s.Represents r) (hfits : r.Fits m) (hnames : m.names.Nodup) {a : Attr}
    (ha : a ∈ m.attrs) : Entries.find? a.name s.defaults = some a.initialValue ∧
      Entries.find? a.name s.attrs = some (s.get a.name) ∧
      (s.get a.name = .null → a.initialValue = .null) := by
  obtain ⟨f, hf, hinitial, hget⟩ := hfits.exists_field hnames ha
  rw [h.defaults, h.attrs, hf, h.get, hget, ← hinitial]
  refine ⟨rfl, rfl, fun hnull => ?_⟩
  rw [← Value.isNull_eq_true_iff] at hnull ⊢
  exact hfits.null a.name f hf hnull

end Represents

theorem assign_of_canonical_eq {s : StoredRecord} {name other : String}
    (h : s.canonical name = s.canonical other) (v : Value) :
    s.assign name v = s.assign other v := by
  rw [assign, assign, h]

/-- The maps of a stored record stay in step with each other and with the model. -/
theorem stays_in_step (b : Behavior P) (hrules : ∀ rule, (rules rule).Follows Edit)
    (m : Model P.RecordRule) (hm : m.Declared) (s : StoredRecord) (h : Reached rules b m s) :
    (Entries.keys s.attrs).Nodup ∧
    (∀ name, name ∈ Entries.keys s.attrs ↔ name ∈ m.names) ∧
    Entries.keys s.defaults = Entries.keys s.attrs ∧
    (∀ name ∈ Entries.keys s.dirty, name ∈ m.names) ∧
    (∀ a ∈ m.attrs, s.canonical a.name = a.name ∧
      Entries.find? a.name s.defaults = some a.initialValue ∧
      Entries.find? a.name s.attrs = some (s.get a.name) ∧
      (s.get a.name = .null → a.initial = none ∨ a.initial = some .null)) ∧
    (∀ name, s.canonical (s.canonical name) = s.canonical name) ∧
    (∀ nick name, (nick, name) ∈ s.aliases ↔
      nick ∉ m.names ∧ ∃ a, (m.attrs.find? fun a => a.aliases.contains nick) = some a ∧
        a.name = name) ∧
    (∀ nick name, (nick, name) ∈ s.aliases → s.canonical nick = name ∧ name ∈ m.names ∧
      s.get nick = s.get name ∧ s.isDeclared nick = s.isDeclared name ∧
      ∀ v, s.assign nick v = s.assign name v) ∧
    ∃ r : Record, r.Fits m ∧ s.Represents r := by
  obtain ⟨r, hfits, hr⟩ := h.represents hrules hm
  have hnull : ∀ a : Attr, a.initialValue = .null → a.initial = none ∨ a.initial = some .null := by
    intro a ha
    cases hinitial : a.initial with
    | none => exact .inl rfl
    | some v =>
      rw [Attr.initialValue, hinitial] at ha
      exact .inr (congrArg some ha)
  refine ⟨hr.sortedAttrs.nodup_keys, hr.mem_keys_attrs_iff hfits, hr.keys_defaults, ?_, ?_, ?_, ?_,
    ?_, r, hfits, hr⟩
  · intro name hname
    rw [hr.keys_dirty] at hname
    exact hfits.mem_keys_iff.mp (Record.mem_keys_of_mem_dirty hname)
  · intro a ha
    obtain ⟨hdefault, hvalue, hvoid⟩ := hr.of_mem hfits hm.nodup_names ha
    refine ⟨?_, hdefault, hvalue, fun hget => hnull a (hvoid hget)⟩
    rw [hr.canonical, hfits.canonical_of_declared (List.mem_map_of_mem ha)]
  · intro name
    rw [hr.canonical, hr.canonical, hfits.canonical_canonical]
  · intro nick name
    rw [hr.aliases]
    exact hfits.mem_aliases_iff
  · intro nick name halias
    rw [hr.aliases] at halias
    obtain ⟨hcanonical, hname⟩ := hfits.canonical_of_mem_aliases halias
    have hsame : s.canonical nick = s.canonical name := by
      rw [hr.canonical, hr.canonical, hcanonical, hfits.canonical_of_declared hname]
    refine ⟨(hr.canonical nick).trans hcanonical, hname, ?_, ?_, assign_of_canonical_eq hsame⟩
    · rw [get, get, hsame]
    · rw [isDeclared, isDeclared, hsame]

open Record (postModel postModel_declared)

theorem follows_messageRule (rule : MessageRule) :
    (rule.validator : Validator StoredRecord).Follows Edit := by
  intro s
  cases rule with
  | report message => exact .single (.messages s (s.messages ++ [message]))
  | forget => exact .single (.messages s [])
  | halt => exact .refl

/-- The two attributes share an alias, and the rule of the model reports. -/
theorem post_stays_in_step :
    let s := (((postModel.initStored [("state", .text "live")]).assign "state" .null).1.validate
      MessageRule.validator postModel {}).target
    s.messages = ["late"] ∧ Entries.keys s.dirty = ["status"] ∧
      "status" ∈ postModel.names ∧ s.get "state" = .text "draft" ∧
      s.canonical "head" = "title" ∧ s.assign "head" (.int 1) = s.assign "title" (.int 1) := by
  intro s
  have hreached : Reached MessageRule.validator counting postModel s :=
    .validate postModel {} (.assign "state" .null (.init [("state", .text "live")]))
  obtain ⟨-, -, -, hdirty, -, -, -, haliases, -⟩ := stays_in_step MessageRule.validator
    counting follows_messageRule postModel postModel_declared s hreached
  have hstatus : Entries.keys s.dirty = ["status"] := rfl
  obtain ⟨hhead, -, -, -, hassign⟩ := haliases "head" "title" (by decide)
  refine ⟨rfl, hstatus, hdirty "status" ?_, rfl, hhead, hassign (.int 1)⟩
  rw [hstatus]
  exact List.mem_singleton_self _

end StoredRecord

end QueryLayer
