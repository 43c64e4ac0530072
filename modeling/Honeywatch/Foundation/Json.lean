import Honeywatch.Foundation.Text

/-!
# JSON values

Values over any type of strings. A JSON text has strings of scalar values; a
program's own values may hold strings of arbitrary code points, of which only
the well-formed ones have a JSON text. Floats are decimals; numbers without
fraction and exponent are integers. An object is a dictionary in insertion
order; loading one keeps the last value of every key.
-/

namespace Honeywatch.Json

/-- A finite float by its shortest decimal: sign, digits and exponent. The
digits end in a nonzero digit unless the float is zero. -/
structure Decimal where
  negative : Bool
  digits : Nat
  exponent : Int
  normal : if digits = 0 then exponent = 0 else digits % 10 ≠ 0
deriving DecidableEq

/-- `0.0`. -/
def Decimal.zero : Decimal := { negative := false, digits := 0, exponent := 0, normal := rfl }

/-- JSON values with strings of the given type. -/
inductive Value (Text : Type)
  | null
  | bool (value : Bool)
  | int (value : Int)
  | float (value : Decimal)
  | str (value : Text)
  | arr (items : List (Value Text))
  | obj (fields : List (Text × Value Text))

/-- The value of a key in the fields of an object. -/
def get {Text : Type} [DecidableEq Text] (fields : List (Text × Value Text)) (key : Text) :
    Option (Value Text) :=
  (fields.find? fun field => decide (field.1 = key)).map Prod.snd

section Dict

variable {Key Item : Type} [DecidableEq Key]

/-- `dict[key] = item`: a key that is present keeps its place. -/
def setItem (dict : List (Key × Item)) (key : Key) (item : Item) : List (Key × Item) :=
  match dict with
  | [] => [(key, item)]
  | field :: rest =>
    if field.1 = key then (key, item) :: rest else field :: setItem rest key item

/-- The dictionary of fields set one after the other. -/
def ofItems (fields : List (Key × Item)) : List (Key × Item) :=
  fields.foldl (fun dict field => setItem dict field.1 field.2) []

/-- Setting a key changes what that key holds and nothing else. With distinct keys
the former field is gone. -/
theorem mem_setItem_iff (dict : List (Key × Item)) (distinct : (dict.map Prod.fst).Nodup)
    (key : Key) (item : Item) (field : Key × Item) :
    field ∈ setItem dict key item ↔ field = (key, item) ∨ (field ∈ dict ∧ field.1 ≠ key) := by
  induction dict with
  | nil => simp [setItem]
  | cons first rest inductionHypothesis =>
    rw [List.map_cons, List.nodup_cons] at distinct
    obtain ⟨absent, later⟩ := distinct
    rw [setItem]
    split
    · next same =>
      have elsewhere : ∀ other ∈ rest, other.1 ≠ key := fun other member taken =>
        absent (List.mem_map.mpr ⟨other, member, taken.trans same.symm⟩)
      have settled := elsewhere field
      simp only [List.mem_cons]
      grind
    · next different =>
      rw [List.mem_cons, inductionHypothesis later]
      grind

/-- Setting a key that is there changes no key, and a new one comes last, as in a
dictionary that keeps the order of insertion. -/
theorem setItem_keys (dict : List (Key × Item)) (key : Key) (item : Item) :
    (setItem dict key item).map Prod.fst =
      if key ∈ dict.map Prod.fst then dict.map Prod.fst else dict.map Prod.fst ++ [key] := by
  induction dict with
  | nil => simp [setItem]
  | cons first rest inductionHypothesis =>
    rw [setItem]
    by_cases same : first.1 = key
    · simp [same]
    · have other : key ≠ first.1 := fun taken => same taken.symm
      simp only [same, if_false, List.map_cons, inductionHypothesis, List.mem_cons, other,
        false_or]
      split <;> rfl

/-- A dictionary has every key once, before and after a key is set. -/
theorem setItem_distinct (dict : List (Key × Item)) (distinct : (dict.map Prod.fst).Nodup)
    (key : Key) (item : Item) : ((setItem dict key item).map Prod.fst).Nodup := by
  rw [setItem_keys]
  split
  · exact distinct
  · next absent =>
    rw [List.nodup_append]
    exact ⟨distinct, by simp, by grind⟩

/-- The last field of an object is set last, so it wins over an earlier one of its
key. -/
theorem ofItems_append_singleton (fields : List (Key × Item)) (last : Key × Item) :
    ofItems (fields ++ [last]) = setItem (ofItems fields) last.1 last.2 := by
  simp [ofItems]

/-- A dictionary has each key once. By induction over the fields, from the last. -/
theorem ofItems_distinct (fields : List (Key × Item)) :
    ((ofItems fields).map Prod.fst).Nodup := by
  induction fields using List.reverseRecOn with
  | nil => simp [ofItems]
  | append_singleton earlier last inductionHypothesis =>
    rw [ofItems_append_singleton]
    exact setItem_distinct _ inductionHypothesis _ _

/-- A dictionary holds of every key what was set last, and nothing that was not set.
-/
theorem mem_ofItems_iff (fields : List (Key × Item)) (field : Key × Item) :
    field ∈ ofItems fields ↔
      ∃ before after, fields = before ++ field :: after ∧ ∀ later ∈ after, later.1 ≠ field.1 := by
  induction fields using List.reverseRecOn with
  | nil => simp [ofItems]
  | append_singleton earlier last inductionHypothesis =>
    rw [ofItems_append_singleton, mem_setItem_iff _ (ofItems_distinct earlier),
      inductionHypothesis]
    constructor
    · rintro (rfl | ⟨⟨before, after, rfl, unset⟩, other⟩)
      · exact ⟨earlier, [], rfl, by simp⟩
      · refine ⟨before, after ++ [last], by simp, fun later member => ?_⟩
        rcases List.mem_append.mp member with inside | atEnd
        · exact unset later inside
        · rw [List.mem_singleton.mp atEnd]
          exact fun taken => other taken.symm
    · rintro ⟨before, after, split, unset⟩
      rcases List.eq_nil_or_concat after with rfl | ⟨others, final, rfl⟩
      · have ends := List.append_inj' split rfl
        exact .inl (List.singleton_inj.mp ends.2).symm
      · rw [List.concat_eq_append, ← List.cons_append, ← List.append_assoc] at split
        have ends := List.append_inj' split rfl
        have same : last = final := List.singleton_inj.mp ends.2
        refine .inr ⟨⟨before, others, ends.1, fun later member => unset later (by simp [member])⟩,
          fun taken => unset last (by simp [same]) taken.symm⟩

/-- Fields with distinct keys are a dictionary as they are, in the same order. -/
theorem ofItems_of_distinct (fields : List (Key × Item)) (distinct : (fields.map Prod.fst).Nodup) :
    ofItems fields = fields := by
  have appended : ∀ dict : List (Key × Item), ∀ key item,
      key ∉ dict.map Prod.fst → setItem dict key item = dict ++ [(key, item)] := by
    intro dict key item absent
    induction dict with
    | nil => rfl
    | cons first rest inductionHypothesis =>
      simp only [List.map_cons, List.mem_cons, not_or] at absent
      rw [setItem, if_neg fun same => absent.1 same.symm, inductionHypothesis absent.2]
      rfl
  induction fields using List.reverseRecOn with
  | nil => rfl
  | append_singleton earlier last inductionHypothesis =>
    rw [List.map_append, List.nodup_append] at distinct
    rw [ofItems_append_singleton, inductionHypothesis distinct.1]
    exact appended earlier last.1 last.2 fun member =>
      distinct.2.2 last.1 member last.1 (by simp) rfl

end Dict

section Strings

variable {Source Target : Type}

mutual

/-- A value with every string, keys included, taken to another type. -/
def Value.map (take : Source → Target) : Value Source → Value Target
  | .null => .null
  | .bool value => .bool value
  | .int value => .int value
  | .float value => .float value
  | .str value => .str (take value)
  | .arr items => .arr (Value.mapItems take items)
  | .obj fields => .obj (Value.mapFields take fields)

def Value.mapItems (take : Source → Target) : List (Value Source) → List (Value Target)
  | [] => []
  | item :: rest => item.map take :: Value.mapItems take rest

def Value.mapFields (take : Source → Target) :
    List (Source × Value Source) → List (Target × Value Target)
  | [] => []
  | (key, value) :: rest => (take key, value.map take) :: Value.mapFields take rest

end

mutual

/-- A value loaded as the program's own: its objects become dictionaries. -/
def Value.load [DecidableEq Target] (take : Source → Target) : Value Source → Value Target
  | .null => .null
  | .bool value => .bool value
  | .int value => .int value
  | .float value => .float value
  | .str value => .str (take value)
  | .arr items => .arr (Value.loadItems take items)
  | .obj fields => .obj (ofItems (Value.loadFields take fields))

def Value.loadItems [DecidableEq Target] (take : Source → Target) :
    List (Value Source) → List (Value Target)
  | [] => []
  | item :: rest => item.load take :: Value.loadItems take rest

def Value.loadFields [DecidableEq Target] (take : Source → Target) :
    List (Source × Value Source) → List (Target × Value Target)
  | [] => []
  | (key, value) :: rest => (take key, value.load take) :: Value.loadFields take rest

end

mutual

/-- Every string of a value, keys included. -/
def Value.texts : Value Source → List Source
  | .null => []
  | .bool _ => []
  | .int _ => []
  | .float _ => []
  | .str value => [value]
  | .arr items => Value.itemTexts items
  | .obj fields => Value.fieldTexts fields

def Value.itemTexts : List (Value Source) → List Source
  | [] => []
  | item :: rest => item.texts ++ Value.itemTexts rest

def Value.fieldTexts : List (Source × Value Source) → List Source
  | [] => []
  | (key, value) :: rest => key :: value.texts ++ Value.fieldTexts rest

end

mutual

/-- Every object of a value has distinct keys. -/
def Value.Keyed : Value Source → Prop
  | .null => True
  | .bool _ => True
  | .int _ => True
  | .float _ => True
  | .str _ => True
  | .arr items => Value.KeyedItems items
  | .obj fields => (fields.map Prod.fst).Nodup ∧ Value.KeyedFields fields

def Value.KeyedItems : List (Value Source) → Prop
  | [] => True
  | item :: rest => item.Keyed ∧ Value.KeyedItems rest

def Value.KeyedFields : List (Source × Value Source) → Prop
  | [] => True
  | (_, value) :: rest => value.Keyed ∧ Value.KeyedFields rest

end

variable [DecidableEq Source] {there : Source → Target} {back : Target → Source}

mutual

/-- Taking a value there and loading it back gives the value, when every string
comes back and every object is a dictionary. -/
theorem Value.load_map : ∀ value : Value Source,
    (∀ text ∈ value.texts, back (there text) = text) → value.Keyed →
      (value.map there).load back = value
  | .null, _, _ => rfl
  | .bool _, _, _ => rfl
  | .int _, _, _ => rfl
  | .float _, _, _ => rfl
  | .str text, returned, _ => congrArg Value.str (returned text (List.mem_singleton.mpr rfl))
  | .arr items, returned, keyed => congrArg Value.arr (Value.loadItems_map items returned keyed)
  | .obj fields, returned, keyed => by
    rw [Value.map, Value.load, Value.loadFields_map fields returned keyed.2,
      ofItems_of_distinct fields keyed.1]

/-- Texts that survive their encoding make a list survive: by recursion over the
items, together with the values and the fields. -/
theorem Value.loadItems_map : ∀ items : List (Value Source),
    (∀ text ∈ Value.itemTexts items, back (there text) = text) → Value.KeyedItems items →
      Value.loadItems back (Value.mapItems there items) = items
  | [], _, _ => rfl
  | item :: rest, returned, keyed => by
    rw [Value.mapItems, Value.loadItems,
      Value.load_map item (fun text member => returned text (List.mem_append_left _ member))
        keyed.1,
      Value.loadItems_map rest (fun text member => returned text (List.mem_append_right _ member))
        keyed.2]

/-- The same for an object. Here the keys survive, too, and stay apart, so that
reading it back drops no field. -/
theorem Value.loadFields_map : ∀ fields : List (Source × Value Source),
    (∀ text ∈ Value.fieldTexts fields, back (there text) = text) → Value.KeyedFields fields →
      Value.loadFields back (Value.mapFields there fields) = fields
  | [], _, _ => rfl
  | (key, value) :: rest, returned, keyed => by
    rw [Value.mapFields, Value.loadFields, returned key (List.mem_cons_self),
      Value.load_map value (fun text member =>
        returned text (List.mem_cons_of_mem _ (List.mem_append_left _ member))) keyed.1,
      Value.loadFields_map rest (fun text member =>
        returned text (List.mem_cons_of_mem _ (List.mem_append_right _ member))) keyed.2]

end

end Strings

end Honeywatch.Json
