/-
  DidLedger/Proofs/Shape/WireTypes.lean
  =====================================
  **The types that are sent, stored and loaded have normal forms.**

  For each kind of field it is said once what it takes for a record with such a
  field to be regular: its name is none of the later ones, and the value that it
  holds by default is canonical.  What remains for a type is to look at its list
  of names.
-/
import DidLedger.Credential.Definition
import DidLedger.Credential.Schema
import DidLedger.Facade.Registrar
import DidLedger.Facade.Resolver
import DidLedger.Proofs.Shape.NormalForm

namespace DidLedger

open DidLedger.Ledger DidLedger.Credential DidLedger.Facade

variable {α : Type} {types : List Type}

/-! ### Names -/

@[simp] theorem Field.required_name (name : String) :
    (required name : Field α).name = name := rfl

@[simp] theorem Field.withDefault_name (name : String) (a : α) :
    (withDefault name a).name = name := rfl

@[simp] theorem Field.nullable_name (name : String) :
    (nullable name : Field (Option α)).name = name := rfl

@[simp] theorem Field.optional_name (name : String) :
    (optional name : Field (Option α)).name = name := rfl

@[simp] theorem Field.trailing_name (name : String) :
    (trailing name : Field (Option α)).name = name := rfl

@[simp] theorem Field.alsoNamed_name (field : Field α) (other : String) :
    (field.alsoNamed other).name = field.name := rfl

@[simp] theorem Fields.names_nil : Fields.nil.names = [] := rfl

@[simp] theorem Fields.names_cons (field : Field α) (shape : Shape α) (rest : Fields types) :
    (Fields.cons field shape rest).names = field.name :: rest.names := rfl

@[simp] theorem Fields.regular_nil : Fields.nil.Regular := trivial

theorem Field.answersTo_eq_false_iff {field : Field α} (h : field.aliases = [])
    {names : List String} :
    (∀ n ∈ names, field.answersTo n = false) ↔ field.name ∉ names := by
  simp only [answersTo, h, List.contains_nil, Bool.or_false, beq_eq_false_iff_ne]
  constructor
  · intro hne hmem
    exact hne _ hmem rfl
  · rintro hmem n hn rfl
    exact hmem hn

/-! ### Shapes without a field of their own -/

namespace Shape

@[simp] theorem regular_string : Shape.string.Regular := trivial

@[simp] theorem regular_word64 : Shape.word64.Regular := trivial

@[simp] theorem regular_json : Shape.json.Regular := trivial

@[simp] theorem regular_dictionary : Shape.dictionary.Regular := trivial

@[simp] theorem regular_choice {variants : List (String × α)} {nameOf : α → String}
    {lookup_nameOf : ∀ a, variants.lookup (nameOf a) = some a} :
    (Shape.choice variants nameOf lookup_nameOf).Regular := trivial

@[simp] theorem regular_optional_iff {inner : Shape α} :
    (Shape.optional inner).Regular ↔ inner.Regular := .rfl

@[simp] theorem regular_sequence_iff {inner : Shape α} :
    (Shape.sequence inner).Regular ↔ inner.Regular := .rfl

@[simp] theorem regular_record_iff {name : String} {fields : Fields types} {pack : Row types → α}
    {unpack : α → Row types} {pack_unpack : ∀ a, pack (unpack a) = a} :
    (Shape.record name fields pack unpack pack_unpack).Regular ↔
      (∀ row, unpack (pack row) = row) ∧ fields.Regular := .rfl

@[simp] theorem canonical_string (s : String) : Shape.string.Canonical s := trivial

@[simp] theorem canonical_null : Shape.json.Canonical .null := rfl

@[simp] theorem canonical_none (inner : Shape α) : (Shape.optional inner).Canonical none := nofun

@[simp] theorem canonical_nil (inner : Shape α) : (Shape.sequence inner).Canonical [] := nofun

end Shape

/-! ### Kinds of fields -/

section
variable {name : String} {rest : Fields types}

/-- A field that can be absent stands for nothing then. -/
theorem Fields.regular_cons_none_iff {field : Field (Option α)} {inner : Shape α}
    (haliases : field.aliases = []) (habsent : field.absent? = some none) :
    (Fields.cons field (.optional inner) rest).Regular ↔
      field.name ∉ rest.names ∧ inner.Regular ∧ rest.Regular := by
  rw [Regular, Field.answersTo_eq_false_iff haliases, habsent]
  simp

@[simp] theorem Fields.regular_required_iff {shape : Shape α} :
    (Fields.cons (.required name) shape rest).Regular ↔
      name ∉ rest.names ∧ shape.Regular ∧ rest.Regular := by
  rw [Regular, Field.answersTo_eq_false_iff rfl]
  simp [Field.required]

@[simp] theorem Fields.regular_withDefault_iff {shape : Shape α} {a : α} :
    (Fields.cons (.withDefault name a) shape rest).Regular ↔
      name ∉ rest.names ∧ shape.Canonical a ∧ shape.Regular ∧ rest.Regular := by
  rw [Regular, Field.answersTo_eq_false_iff rfl]
  simp [Field.withDefault]

@[simp] theorem Fields.regular_nullable_iff {inner : Shape α} :
    (Fields.cons (.nullable name) (.optional inner) rest).Regular ↔
      name ∉ rest.names ∧ inner.Regular ∧ rest.Regular :=
  regular_cons_none_iff rfl rfl

@[simp] theorem Fields.regular_optional_iff {inner : Shape α} :
    (Fields.cons (.optional name) (.optional inner) rest).Regular ↔
      name ∉ rest.names ∧ inner.Regular ∧ rest.Regular :=
  regular_cons_none_iff rfl rfl

@[simp] theorem Fields.regular_trailing_iff {inner : Shape α} :
    (Fields.cons (.trailing name) (.optional inner) rest).Regular ↔
      name ∉ rest.names ∧ inner.Regular ∧ rest.Regular :=
  regular_cons_none_iff rfl rfl

/-- A further name has to be none of the later ones as well. -/
@[simp] theorem Fields.regular_alsoNamed_iff {field : Field α} {shape : Shape α} {other : String} :
    (Fields.cons (field.alsoNamed other) shape rest).Regular ↔
      other ∉ rest.names ∧ (Fields.cons field shape rest).Regular := by
  have hanswers : ∀ n, (field.alsoNamed other).answersTo n = false ↔
      field.answersTo n = false ∧ n ≠ other := by
    intro n
    simp [Field.answersTo, Field.alsoNamed, and_assoc]
  simp only [Regular, hanswers]
  constructor
  · rintro ⟨hnames, hrest⟩
    exact ⟨fun hmem => (hnames other hmem).2 rfl, fun n hn => (hnames n hn).1, hrest⟩
  · rintro ⟨hother, hnames, hrest⟩
    refine ⟨fun n hn => ⟨hnames n hn, ?_⟩, hrest⟩
    rintro rfl
    exact hother hn

end

/-! ### The types -/

@[simp] theorem Network.regular_shape : shape.Regular := by
  simp [shape]

theorem Config.regular_shape : shape.Regular := by
  simp [shape]

@[simp] theorem CreateOptions.regular_shape : shape.Regular := by
  simp [shape]

@[simp] theorem UpdateFields.regular_shape : shape.Regular := by
  simp [shape]

@[simp] theorem VerificationMethod.regular_shape : shape.Regular := by
  simp [shape, MethodType.shape]

@[simp] theorem Document.regular_shape : shape.Regular := by
  simp [shape]

/-! #### The ledger -/

theorem Ledger.NymOperation.regular_shape : shape.Regular := by
  simp [shape]

@[simp] theorem Ledger.NymRecord.regular_shape : shape.Regular := by
  simp [shape]

theorem Ledger.ReadResponse.regular_shape : shape.Regular := by
  simp [shape]

@[simp] theorem Credential.Schema.regular_shape : shape.Regular := by
  simp [shape]

theorem Credential.RegisteredSchema.regular_shape : shape.Regular := by
  simp [shape]

@[simp] theorem Credential.KeyMaterial.regular_shape : shape.Regular := by
  simp [shape]

@[simp] theorem Credential.Definition.regular_shape : shape.Regular := by
  have hempty : KeyMaterial.shape.Canonical .empty :=
    ⟨Shape.canonical_null, Shape.canonical_none _, trivial⟩
  simp [shape, hempty]

theorem Credential.RegisteredDefinition.regular_shape : shape.Regular := by
  simp [shape]

/-! #### The parts of an agent -/

theorem Facade.DidCreateOptions.regular_shape : shape.Regular := by
  have hempty : CreateOptions.shape.Canonical .empty :=
    ⟨trivial, trivial, Shape.canonical_none _, Shape.canonical_none _, trivial⟩
  simp [shape, hempty]

theorem Facade.DidUpdateOptions.regular_shape : shape.Regular := by
  have hempty : UpdateFields.shape.Canonical .empty :=
    ⟨Shape.canonical_none _, Shape.canonical_none _, trivial⟩
  simp [shape, hempty]

theorem Facade.DidDeactivateOptions.regular_shape : shape.Regular := by
  simp [shape]

@[simp] theorem Facade.Secret.regular_shape : shape.Regular := by
  simp [shape]

@[simp] theorem Facade.DidState.regular_shape : shape.Regular := by
  simp [shape, State.shape]

theorem Facade.DidOperationResult.regular_shape : shape.Regular := by
  simp [shape]

@[simp] theorem Facade.ResolutionMetadata.regular_shape : shape.Regular := by
  simp [shape]

theorem Facade.Resolution.regular_shape : shape.Regular := by
  simp [shape]

/-- **What is written is a normal form**: for every type, whatever is read as a
    value is written as something that reads as the same value. -/
theorem wireTypes_normalize :
    Network.shape.Normalizes ∧ Config.shape.Normalizes ∧
      CreateOptions.shape.Normalizes ∧ UpdateFields.shape.Normalizes ∧
      DidCreateOptions.shape.Normalizes ∧ DidUpdateOptions.shape.Normalizes ∧
      DidDeactivateOptions.shape.Normalizes ∧ DidState.shape.Normalizes ∧
      Secret.shape.Normalizes ∧ DidOperationResult.shape.Normalizes ∧
      ResolutionMetadata.shape.Normalizes ∧ Resolution.shape.Normalizes ∧
      Document.shape.Normalizes ∧ VerificationMethod.shape.Normalizes ∧
      Schema.shape.Normalizes ∧ Definition.shape.Normalizes ∧ KeyMaterial.shape.Normalizes ∧
      RegisteredSchema.shape.Normalizes ∧ RegisteredDefinition.shape.Normalizes ∧
      NymOperation.shape.Normalizes ∧ NymRecord.shape.Normalizes ∧
      ReadResponse.shape.Normalizes ∧ Kind.shape.Normalizes := by
  have hkind : Kind.shape.Regular := by simp [Kind.shape]
  exact ⟨Network.regular_shape.normalizes, Config.regular_shape.normalizes,
    CreateOptions.regular_shape.normalizes, UpdateFields.regular_shape.normalizes,
    DidCreateOptions.regular_shape.normalizes, DidUpdateOptions.regular_shape.normalizes,
    DidDeactivateOptions.regular_shape.normalizes, DidState.regular_shape.normalizes,
    Secret.regular_shape.normalizes, DidOperationResult.regular_shape.normalizes,
    ResolutionMetadata.regular_shape.normalizes, Resolution.regular_shape.normalizes,
    Document.regular_shape.normalizes, VerificationMethod.regular_shape.normalizes,
    Schema.regular_shape.normalizes, Definition.regular_shape.normalizes,
    KeyMaterial.regular_shape.normalizes, RegisteredSchema.regular_shape.normalizes,
    RegisteredDefinition.regular_shape.normalizes, NymOperation.regular_shape.normalizes,
    NymRecord.regular_shape.normalizes, ReadResponse.regular_shape.normalizes, hkind.normalizes⟩

/-- A network under its other names, with a member that no field answers to. -/
theorem wireTypes_normalize_aliases :
    let v : Json := .object [("baseUrl", .string "http://ledger"), ("network", .string "testnet"),
      ("note", .null), ("token", .null)]
    let network := Network.new "testnet" "http://ledger"
    Network.shape.readValue v = .ok network ∧
      Network.shape.readValue (Network.shape.toJson network) = .ok network := by
  intro v network
  have hread : Network.shape.readValue v = .ok network := by rfl
  exact ⟨hread, wireTypes_normalize.1 v network hread⟩

end DidLedger
