import ApiStubs.Backend.View
import ApiStubs.Proofs.Builtin.Compiled
import ApiStubs.Proofs.Template.Sight

/-!
# What templates read of a description

The parts of a description hold no round of a loop, so they can be bound by loops and looked up
anywhere.  What the built-in templates ask of a field is said once for all languages.
-/

namespace ApiStubs

open Template

/-! ## Views hold no round -/

theorem itemsHoldRound_map {α : Type} {view : α → Value} (h : ∀ a, (view a).holdsRound = false)
    (items : List α) : Value.itemsHoldRound (items.map view) = false := by
  induction items with
  | nil => rfl
  | cons a rest ih => simp [Value.itemsHoldRound, h, ih]

theorem holdsRound_optionsView (options : Options) : (optionsView options).holdsRound = false := by
  unfold optionsView
  induction options.toList with
  | nil => rfl
  | cons entry rest ih => simpa [Value.holdsRound, Value.entriesHoldRound] using ih

theorem Field.holdsRound_view (f : Field) : f.view.holdsRound = false := by
  simp [Field.view, Value.holdsRound, Value.entriesHoldRound, holdsRound_optionsView]

theorem Message.holdsRound_view (m : Message) : m.view.holdsRound = false := by
  simp [Message.view, Value.holdsRound, Value.entriesHoldRound,
    itemsHoldRound_map Field.holdsRound_view]

theorem EnumValue.holdsRound_view (v : EnumValue) : v.view.holdsRound = false := by
  simp [EnumValue.view, Value.holdsRound, Value.entriesHoldRound]

theorem Enumeration.holdsRound_view (e : Enumeration) : e.view.holdsRound = false := by
  simp [Enumeration.view, Value.holdsRound, Value.entriesHoldRound,
    itemsHoldRound_map EnumValue.holdsRound_view]

theorem Method.holdsRound_view (m : Method) : m.view.holdsRound = false := by
  simp [Method.view, Value.holdsRound, Value.entriesHoldRound, holdsRound_optionsView]

theorem Method.holdsRound_routeView (service : String) (m : Method) :
    (m.routeView service).holdsRound = false := by
  simp [Method.routeView, Value.holdsRound, Value.entriesHoldRound, holdsRound_optionsView]

/-! ## Members -/

@[simp]
theorem Template.Value.member_map (entries : List (String × Value)) (name : String) :
    (Value.map entries).member name = (findEntry name entries).getD .undefined := rfl

@[simp]
theorem Template.Value.printed?_text (s : String) : (Value.text s).printed? = some s := rfl

@[simp]
theorem Template.Value.printed?_int (w : Width) (n : Int) :
    (Value.int w n).printed? = some (Text.decimal n) := rfl

/-! ## Fields -/

/-- Whether values of a type are passed on as they are: the type is a scalar or an enumeration. -/
def isPlainType (enumNames : List String) (dataType : String) : Bool :=
  isScalarName dataType || enumNames.contains dataType

/-- A type that is neither a scalar nor an enumeration of the description, so that its values are
objects of their own: Go points to them. -/
def Request.IsPointedTo (request : Request) (typeName : String) : Prop :=
  (∀ scalar : Scalar, scalar.name ≠ typeName) ∧ ∀ e ∈ request.enums, e.name ≠ typeName

theorem isScalarName_iff (typeName : String) :
    isScalarName typeName = true ↔ ∃ scalar : Scalar, scalar.name = typeName := by
  have hall (scalar : Scalar) : scalar ∈ Scalar.all := by cases scalar <;> decide
  simp [isScalarName, Scalar.ofName?, hall]

theorem Request.isPointedTo_iff (request : Request) (typeName : String) :
    request.IsPointedTo typeName ↔
      isPlainType (request.enums.map Enumeration.name) typeName = false := by
  rw [IsPointedTo, isPlainType, Bool.or_eq_false_iff, ← Bool.not_eq_true, isScalarName_iff]
  simp

instance (request : Request) (typeName : String) : Decidable (request.IsPointedTo typeName) :=
  decidable_of_iff' _ (request.isPointedTo_iff typeName)

namespace Template.Sight

variable {sight : Sight} {f : Field} {enums : List Enumeration}

theorem gives_dataType (h : sight.names "field" = some f.view) :
    sight.Gives (.dot "field" "data_type") (.text f.dataType) :=
  gives_dot h (by simp [Field.view, findEntry]) rfl

theorem decides_repeatedField (h : sight.names "field" = some f.view) :
    sight.Decides repeatedField (f.label = .repeated) := by
  have hlabel : sight.Gives (.dot "field" "label") (.text f.label.name) :=
    gives_dot h (by simp [Field.view, findEntry]) rfl
  have hname : f.label.name = "LABEL_REPEATED" ↔ f.label = .repeated := by
    cases f.label <;> simp [Label.name]
  exact (decides_equal hlabel "LABEL_REPEATED").of_iff hname

theorem decides_scalarField (h : sight.names "field" = some f.view) :
    sight.Decides scalarField (isScalarName f.dataType = true) :=
  decides_scalar (gives_dataType h)

/-- Which names are those of enumerations is seen under a name of its own. -/
theorem gives_enumNames (h : sight.names "enum_names" = some (enumNamesView enums)) :
    sight.Gives (.name "enum_names") (.list ((enums.map Enumeration.name).map .text)) := by
  have hview : enumNamesView enums = .list ((enums.map Enumeration.name).map .text) := by
    simp [enumNamesView]
  exact gives_name (hview ▸ h)

/-- The type of a field in the language of the sight. -/
theorem prints_nativeType (h : sight.names "field" = some f.view) :
    sight.Prints (.print (.filter (.dot "field" "data_type") "target_type" []))
      (sight.language.nativeType f.dataType) :=
  prints_print rfl (gives_nativeType (gives_dataType h)) rfl

theorem prints_capitalName (h : sight.names "field" = some f.view) :
    sight.Prints (.print (.filter (.dot "field" "name") "upper_first" []))
      (Text.capitalize f.name) :=
  prints_print rfl (gives_capitalize (gives_dot h (by simp [Field.view, findEntry]) rfl)) rfl

/-! ## Methods -/

variable {m : Method} {service : String}

theorem decides_verb_ne (h : sight.names "method" = some (m.routeView service)) (verb : String) :
    sight.Decides (.isNot "method" "service_type" verb) (¬ m.verb = verb) :=
  decides_unequal (gives_dot h (by simp [Method.routeView, findEntry]) rfl) verb

end Template.Sight

end ApiStubs
