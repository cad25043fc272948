import UavFanet.JsonLoader

/-! `MergeFrom`: the second document laid over the first one, path by path. -/
namespace UavFanet.JsonLoader

variable {D : Type}

namespace Node

def isObject : Node D → Bool
  | object _ => true
  | _ => false

/-- `target[key] = value`. -/
def setField (key : String) (value : Node D) : List (String × Node D) → List (String × Node D)
  | [] => [(key,value)]
  | field::rest => if field.1 = key then (key,value)::rest else field::setField key value rest

end Node

open Node

mutual

def deepMerge (target : Node D) : Node D → Node D
  | .object source =>
    match target with
    | .object fields => .object (mergeFields fields source)
    | _ => .object source
  | source => source

/-- The loop over the source. -/
def mergeFields (target : List (String × Node D)) :
    List (String × Node D) → List (String × Node D)
  | [] => target
  | (key,value)::rest =>
    let child :=
      match find key target with
      | some child => if child.isObject && value.isObject then deepMerge child value else value
      | none => value
    mergeFields (setField key child target) rest

end

/-- No object has a key twice, as in a `std::map`. -/
inductive Distinct : Node D → Prop where
  | plain (node : Node D) (leaf : node.isObject = false) : Distinct node
  | object (fields : List (String × Node D)) (keys : (fields.map (·.1)).Nodup)
      (values : ∀ field ∈ fields, Distinct field.2) : Distinct (.object fields)

section Fields

variable {key other : String} {value : Node D} {fields target source : List (String × Node D)}

theorem find_cons (field : String × Node D) :
    find key (field::fields) = if field.1 = key then some field.2 else find key fields := by
  unfold find
  by_cases same : field.1 = key
  · simp [same]
  · simp [same]

theorem find_none : find key fields = none ↔ key ∉ fields.map (·.1) := by
  induction fields with
  | nil => simp [find]
  | cons field rest ih =>
    rw [find_cons,List.map_cons,List.mem_cons,not_or,← ih]
    split
    · rename_i same
      simp [same]
    · rename_i different
      simp [Ne.symm different]

theorem find_some_of_mem (keys : (fields.map (·.1)).Nodup) {field : String × Node D}
    (member : field ∈ fields) : find field.1 fields = some field.2 := by
  induction fields with
  | nil => cases member
  | cons first rest ih =>
    rw [List.map_cons,List.nodup_cons] at keys
    rw [find_cons]
    rcases List.mem_cons.mp member with rfl | later
    · exact if_pos rfl
    · have different : first.1 ≠ field.1 :=
        fun same => keys.1 (same ▸ List.mem_map_of_mem later)
      rw [if_neg different]
      exact ih keys.2 later

theorem mem_of_find (found : find key fields = some value) : (key,value) ∈ fields := by
  induction fields with
  | nil => cases found
  | cons field rest ih =>
    rw [find_cons] at found
    split at found
    · rename_i same
      cases found
      subst same
      exact List.mem_cons_self
    · exact List.mem_cons_of_mem _ (ih found)

theorem find_setField : find other (setField key value fields) =
    if key = other then some value else find other fields := by
  induction fields with
  | nil => exact find_cons _
  | cons field rest ih =>
    rw [setField]
    split
    · rename_i same
      rw [find_cons,find_cons,same]
      split
      · rfl
      · rfl
    · rename_i different
      rw [find_cons,find_cons,ih]
      split
      · rename_i here
        rw [if_neg (by rw [← here]; exact Ne.symm different)]
      · rfl

theorem mem_keys_setField : other ∈ (setField key value fields).map (·.1) ↔
    other = key ∨ other ∈ fields.map (·.1) := by
  rw [← not_iff_not,← find_none,find_setField,not_or,← find_none]
  split
  · rename_i same
    simp [same]
  · rename_i different
    simp [Ne.symm different]

theorem setField_nodup (keys : (fields.map (·.1)).Nodup) :
    ((setField key value fields).map (·.1)).Nodup := by
  induction fields with
  | nil => simp [setField]
  | cons field rest ih =>
    rw [List.map_cons,List.nodup_cons] at keys
    rw [setField]
    split
    · rename_i same
      rw [List.map_cons,List.nodup_cons,← same]
      exact keys
    · rename_i different
      rw [List.map_cons,List.nodup_cons,mem_keys_setField,not_or]
      exact ⟨⟨different,keys.1⟩,ih keys.2⟩

theorem setField_new (missing : find key fields = none) :
    setField key value fields = fields ++ [(key,value)] := by
  induction fields with
  | nil => rfl
  | cons field rest ih =>
    rw [find_cons] at missing
    split at missing
    · cases missing
    · rename_i different
      rw [setField,if_neg different,ih missing]
      rfl

theorem setField_same (found : find key fields = some value) :
    setField key value fields = fields := by
  induction fields with
  | nil => cases found
  | cons field rest ih =>
    rw [find_cons] at found
    rw [setField]
    split
    · rename_i same
      rw [if_pos same] at found
      cases found
      rw [← same]
    · rename_i different
      rw [if_neg different] at found
      rw [ih found]

end Fields

section Merge

variable {key : String} {value a b v : Node D} {fields target source : List (String × Node D)}

theorem deepMerge_plain (leaf : v.isObject = false) : deepMerge a v = v := by
  cases v with
  | object fields => cases leaf
  | _ => rfl

theorem deepMerge_onto_plain (leaf : a.isObject = false) : deepMerge a v = v := by
  cases v with
  | object fields =>
    cases a with
    | object others => cases leaf
    | _ => rfl
  | _ => rfl

theorem deepMerge_objects :
    deepMerge (.object target) (.object source) = .object (mergeFields target source) := by
  rw [deepMerge]

/-- What a key of the source leaves there, by what the target has there. -/
def laidOver (child : Option (Node D)) (value : Node D) : Node D :=
  match child with
  | some child => deepMerge child value
  | none => value

theorem mergeFields_cons (rest : List (String × Node D)) :
    mergeFields target ((key,value)::rest) =
      mergeFields (setField key (laidOver (find key target) value) target) rest := by
  rw [mergeFields]
  cases find key target with
  | none => rfl
  | some child =>
    dsimp only [laidOver]
    split
    · rfl
    · rename_i either
      have plain : deepMerge child value = value := by
        rw [Bool.and_eq_true,not_and_or,Bool.not_eq_true,Bool.not_eq_true] at either
        exact either.elim deepMerge_onto_plain deepMerge_plain
      rw [plain]

/-- The fields of a merge, key by key. -/
theorem find_mergeFields (keys : (source.map (·.1)).Nodup) :
    find key (mergeFields target source) =
      match find key source with
      | none => find key target
      | some value => some (laidOver (find key target) value) := by
  induction source generalizing target with
  | nil =>
    rw [mergeFields]
    rfl
  | cons field rest ih =>
    obtain ⟨other,value⟩ := field
    rw [List.map_cons,List.nodup_cons] at keys
    rw [mergeFields_cons,ih keys.2,find_setField,find_cons]
    by_cases same : other = key
    · subst same
      rw [if_pos rfl,if_pos rfl,find_none.mpr keys.1]
    · rw [if_neg same,if_neg same]

theorem Distinct.keys (distinct : Distinct (.object fields)) : (fields.map (·.1)).Nodup := by
  cases distinct with
  | plain node leaf => cases leaf
  | object fields keys values => exact keys

theorem Distinct.of_mem (distinct : Distinct (.object fields)) {field : String × Node D}
    (member : field ∈ fields) : Distinct field.2 := by
  cases distinct with
  | plain node leaf => cases leaf
  | object fields keys values => exact values field member

theorem Distinct.found (distinct : Distinct (.object fields)) (found : find key fields = some v) :
    Distinct v :=
  distinct.of_mem (mem_of_find found)

/-- A source whose values are there already changes nothing. -/
theorem mergeFields_absorbed (there : ∀ field ∈ source, ∃ child,
    find field.1 target = some child ∧ deepMerge child field.2 = child) :
    mergeFields target source = target := by
  induction source with
  | nil => rw [mergeFields]
  | cons field rest ih =>
    obtain ⟨⟨child,found,same⟩,others⟩ := List.forall_mem_cons.mp there
    obtain ⟨key,value⟩ := field
    rw [mergeFields_cons,found,laidOver,same,setField_same found]
    exact ih others

/-- A value laid over itself is itself. -/
theorem deepMerge_self (distinct : Distinct v) : deepMerge v v = v := by
  induction distinct with
  | plain node leaf => exact deepMerge_plain leaf
  | object fields keys values ih =>
    rw [deepMerge_objects,mergeFields_absorbed]
    exact fun field member => ⟨field.2,find_some_of_mem keys member,ih field member⟩

theorem isObject_iff : v.isObject = true ↔ ∃ fields, v = .object fields := by
  cases v with
  | object fields => exact iff_of_true rfl ⟨fields,rfl⟩
  | _ => exact iff_of_false (fun impossible => nomatch impossible) (fun ⟨_,same⟩ => nomatch same)

theorem deepMerge_again (distinct : Distinct v) :
    deepMerge (deepMerge a v) v = deepMerge a v := by
  induction distinct generalizing a with
  | plain node leaf => rw [deepMerge_plain leaf,deepMerge_plain leaf]
  | object fields keys values ih =>
    cases under : a.isObject with
    | false =>
      rw [deepMerge_onto_plain under]
      exact deepMerge_self (.object fields keys values)
    | true =>
      obtain ⟨target,rfl⟩ := isObject_iff.mp under
      rw [deepMerge_objects,deepMerge_objects,mergeFields_absorbed]
      intro field member
      refine ⟨laidOver (find field.1 target) field.2,?_,?_⟩
      · rw [find_mergeFields keys,find_some_of_mem keys member]
      · cases find field.1 target with
        | none => exact deepMerge_self (values field member)
        | some child => exact ih field member

theorem mergeFields_nodup (keys : (target.map (·.1)).Nodup) :
    ((mergeFields target source).map (·.1)).Nodup := by
  induction source generalizing target with
  | nil => rwa [mergeFields]
  | cons field rest ih =>
    obtain ⟨key,value⟩ := field
    rw [mergeFields_cons]
    exact ih (setField_nodup keys)

/-- A merge gives no object a key twice. -/
theorem deepMerge_distinct (under : Distinct a) (distinct : Distinct v) :
    Distinct (deepMerge a v) := by
  induction distinct generalizing a with
  | plain node leaf =>
    rw [deepMerge_plain leaf]
    exact .plain node leaf
  | object fields keys values ih =>
    cases under with
    | plain node leaf =>
      rw [deepMerge_onto_plain leaf]
      exact .object fields keys values
    | object target below children =>
      rw [deepMerge_objects]
      refine .object _ (mergeFields_nodup below) fun field member => ?_
      have found := find_some_of_mem (mergeFields_nodup below) member
      rw [find_mergeFields keys] at found
      cases above : find field.1 fields with
      | none =>
        rw [above] at found
        exact children _ (mem_of_find found)
      | some value =>
        rw [above] at found
        have laid : laidOver (find field.1 target) value = field.2 := Option.some.inj found
        rw [← laid]
        cases there : find field.1 target with
        | none => exact values _ (mem_of_find above)
        | some child => exact ih _ (mem_of_find above) (children _ (mem_of_find there))

theorem mergeFields_new (keys : (source.map (·.1)).Nodup)
    (missing : ∀ key ∈ source.map (·.1), find key target = none) :
    mergeFields target source = target ++ source := by
  induction source generalizing target with
  | nil => rw [mergeFields,List.append_nil]
  | cons field rest ih =>
    obtain ⟨key,value⟩ := field
    rw [List.map_cons,List.nodup_cons] at keys
    obtain ⟨first,others⟩ := List.forall_mem_cons.mp missing
    rw [mergeFields_cons,first,laidOver,setField_new first,ih keys.2]
    · simp
    · intro other member
      have different : key ≠ other := fun same => keys.1 (same ▸ member)
      rw [← setField_new first,find_setField,if_neg different]
      exact others other member

theorem walk_cons (part : String) (rest : List String) :
    walk (part::rest) (.object fields) = (find part fields).bind (walk rest) := rfl

theorem walk_plain (leaf : v.isObject = false) (part : String) (rest : List String) :
    walk (part::rest) v = none := by
  cases v with
  | object fields => cases leaf
  | _ => rfl

/-- The path leads through something that is no object. -/
def shadowed : List String → Node D → Bool
  | [],_ => false
  | part::rest,.object fields =>
    match find part fields with
    | some child => shadowed rest child
    | none => false
  | _::_,_ => true

/-- What a path finds after a merge. -/
theorem walk_deepMerge (p : List String) (distinct : Distinct b) :
    walk p (deepMerge a b) =
      match walk p b with
      | some v => some (laidOver (walk p a) v)
      | none => if shadowed p b then none else walk p a := by
  induction p generalizing a b with
  | nil => rfl
  | cons part rest ih =>
    cases whole : b.isObject with
    | false =>
      rw [deepMerge_plain whole,walk_plain whole]
      cases b with
      | object fields => cases whole
      | _ => rfl
    | true =>
      obtain ⟨source,rfl⟩ := isObject_iff.mp whole
      cases under : a.isObject with
      | false =>
        rw [deepMerge_onto_plain under,walk_plain under]
        cases walk (part::rest) (.object source) with
        | none => simp
        | some v => rfl
      | true =>
        obtain ⟨target,rfl⟩ := isObject_iff.mp under
        rw [deepMerge_objects,walk_cons,walk_cons,walk_cons,find_mergeFields distinct.keys,shadowed]
        cases above : find part source with
        | none => rfl
        | some value =>
          cases below : find part target with
          | none =>
            simp only [Option.bind_some,Option.bind_none,laidOver]
            cases walk rest value with
            | none => simp
            | some v => rfl
          | some child => exact ih (distinct.found above)

end Merge

/-- Every proper prefix of the path leads to an object. -/
def ObjectsBefore (p : List String) (b : Node D) : Prop :=
  ∀ q, q <+: p → q ≠ p → ∃ fields, walk q b = some (.object fields)

section Paths

variable {a b : Node D} {p : List String} {fields : List (String × Node D)}

theorem walk_append (q r : List String) (a : Node D) :
    walk (q ++ r) a = (walk q a).bind (walk r) := by
  induction q generalizing a with
  | nil => rfl
  | cons part rest ih =>
    cases a with
    | object fields =>
      rw [List.cons_append,walk_cons,walk_cons,Option.bind_assoc]
      exact congrArg _ (funext ih)
    | _ => rfl

theorem objectsBefore_cons {part : String} {rest : List String} :
    ObjectsBefore (part::rest) (.object fields) ↔
      ∀ q, q <+: rest → q ≠ rest →
        ∃ others, (find part fields).bind (walk q) = some (.object others) := by
  constructor
  · intro objects q before proper
    have whole := objects (part::q) (List.cons_prefix_cons.mpr ⟨rfl,before⟩) (by simpa using proper)
    rwa [walk_cons] at whole
  · intro objects q before proper
    rcases List.prefix_cons_iff.mp before with rfl | ⟨t,rfl,inside⟩
    · exact ⟨fields,rfl⟩
    · rw [walk_cons]
      exact objects t inside (by simpa using proper)

theorem not_shadowed (objects : ObjectsBefore p b) : shadowed p b = false := by
  induction p generalizing b with
  | nil => rfl
  | cons part rest ih =>
    obtain ⟨fields,root⟩ := objects [] (List.nil_prefix) (by simp)
    obtain rfl : b = .object fields := Option.some.inj root
    rw [shadowed]
    cases found : find part fields with
    | none => rfl
    | some child =>
      refine ih fun q before proper => ?_
      have inside := objectsBefore_cons.mp objects q before proper
      rwa [found] at inside

/-- Where the path finds nothing and is not shadowed, it leaves the document at a missing key. -/
theorem leaves_at (missing : walk p b = none) (clear : shadowed p b = false) :
    ∃ q r, p = q ++ r ∧ walk q b = none ∧ ObjectsBefore q b := by
  induction p generalizing b with
  | nil => cases missing
  | cons part rest ih =>
    cases whole : b.isObject with
    | false =>
      cases b with
      | object fields => cases whole
      | _ => cases clear
    | true =>
      obtain ⟨fields,rfl⟩ := isObject_iff.mp whole
      rw [walk_cons] at missing
      rw [shadowed] at clear
      cases found : find part fields with
      | none =>
        refine ⟨[part],rest,rfl,by rw [walk_cons,found]; rfl,objectsBefore_cons.mpr ?_⟩
        intro q before proper
        exact absurd (List.prefix_nil.mp before) proper
      | some child =>
        rw [found] at missing clear
        obtain ⟨q,r,rfl,nothing,objects⟩ := ih missing clear
        refine ⟨part::q,r,rfl,by rw [walk_cons,found]; exact nothing,objectsBefore_cons.mpr ?_⟩
        intro t before proper
        rw [found]
        exact objects t before proper

end Paths

/-- The document `m` is `b` laid over `a`. -/
structure Overlay (a b m : Node D) : Prop where
  plain : ∀ p v, walk p b = some v → v.isObject = false → walk p m = some v
  both : ∀ p target source, walk p a = some (.object target) → walk p b = some (.object source) →
    ∃ fields, walk p m = some (.object fields) ∧
      ∀ key, key ∈ fields.map (·.1) ↔ key ∈ target.map (·.1) ∨ key ∈ source.map (·.1)
  above : ∀ p source, walk p b = some (.object source) →
    (∀ target, walk p a ≠ some (.object target)) → walk p m = some (.object source)
  below : ∀ p, walk p b = none → ObjectsBefore p b → walk p m = walk p a
  nothing_else : ∀ p v, walk p m = some v → (∃ w, walk p b = some w) ∨
    ∃ q r w, p = q ++ r ∧ walk q b = none ∧ ObjectsBefore q b ∧ walk q a = some w ∧
      walk r w = some v

theorem walk_distinct {b v : Node D} {p : List String} (distinct : Distinct b)
    (found : walk p b = some v) : Distinct v := by
  induction p generalizing b with
  | nil =>
    cases found
    exact distinct
  | cons part rest ih =>
    cases b with
    | object fields =>
      obtain ⟨child,here,inside⟩ := Option.bind_eq_some_iff.mp found
      exact ih (distinct.found here) inside
    | _ => cases found

theorem deepMerge_overlay {a b : Node D} (distinct : Distinct b) :
    Overlay a b (deepMerge a b) where
  plain p v found leaf := by
    rw [walk_deepMerge p distinct,found]
    cases walk p a with
    | none => rfl
    | some child => exact congrArg some (deepMerge_plain leaf)
  both p target source under found := by
    refine ⟨mergeFields target source,?_,fun key => ?_⟩
    · rw [walk_deepMerge p distinct,found,under]
      exact congrArg some deepMerge_objects
    · have keys := (walk_distinct distinct found).keys
      rw [← not_iff_not,← find_none,find_mergeFields keys,not_or,← find_none,← find_none]
      cases find key source with
      | none => simp
      | some value => simp
  above p source found other := by
    rw [walk_deepMerge p distinct,found]
    cases under : walk p a with
    | none => rfl
    | some child =>
      have plain : child.isObject = false := by
        by_contra whole
        obtain ⟨target,rfl⟩ := isObject_iff.mp (Bool.not_eq_false _ ▸ whole)
        exact other target under
      exact congrArg some (deepMerge_onto_plain plain)
  below p missing objects := by
    rw [walk_deepMerge p distinct,missing,not_shadowed objects]
    rfl
  nothing_else p v found := by
    rw [walk_deepMerge p distinct] at found
    cases above : walk p b with
    | some w => exact .inl ⟨w,rfl⟩
    | none =>
      rw [above] at found
      cases clear : shadowed p b with
      | true => simp [clear] at found
      | false =>
        simp only [clear,Bool.false_eq_true,if_false] at found
        obtain ⟨q,r,rfl,nothing,objects⟩ := leaves_at above clear
        rw [walk_append] at found
        obtain ⟨w,inside,rest⟩ := Option.bind_eq_some_iff.mp found
        exact .inr ⟨q,r,w,rfl,nothing,objects,inside,rest⟩

/-- A document with an object at its root. -/
structure Document (D : Type) where
  fields : List (String × Node D)
  distinct : Distinct (.object fields)

namespace Document

def root (document : Document D) : Node D := .object document.fields

def empty : Document D where
  fields := []
  distinct := .object [] List.nodup_nil fun _ none => nomatch none

/-- `DeepMerge` of the two roots. -/
def mergeFrom (m_root other : Document D) : Document D where
  fields := mergeFields m_root.fields other.fields
  distinct := deepMerge_objects ▸ deepMerge_distinct m_root.distinct other.distinct

theorem root_mergeFrom (a b : Document D) :
    (a.mergeFrom b).root = deepMerge a.root b.root := deepMerge_objects.symm

theorem ext {a b : Document D} (same : a.root = b.root) : a = b := by
  cases a
  cases b
  cases same
  rfl

/-- A merge lays the second document over the first. Again it changes nothing, nor does an empty
document; onto an empty document it gives the second one. -/
theorem merge_overlays (a b : Document D) :
    Overlay a.root b.root (a.mergeFrom b).root ∧ (a.mergeFrom b).mergeFrom b = a.mergeFrom b ∧
      a.mergeFrom empty = a ∧ empty.mergeFrom b = b := by
  refine ⟨?_,ext ?_,ext ?_,ext ?_⟩
  · rw [root_mergeFrom]
    exact deepMerge_overlay b.distinct
  · rw [root_mergeFrom,root_mergeFrom]
    exact deepMerge_again b.distinct
  · rw [root_mergeFrom,root,root,empty,deepMerge_objects,mergeFields]
  · have missing key (_ : key ∈ b.fields.map (·.1)) : find key ([] : List (String × Node D)) = none :=
      rfl
    have onto := mergeFields_new b.distinct.keys missing
    rw [root_mergeFrom,root,root,empty,deepMerge_objects,onto]
    rfl

end Document
end UavFanet.JsonLoader
