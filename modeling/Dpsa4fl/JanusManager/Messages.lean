-- SUMMARY: Requests, responses and the configuration of a manager as JSON, in the form that serde derives from their types.
import Dpsa4fl.Library.Json
import Dpsa4fl.JanusManager.Implementation
import Mathlib.Data.Nat.Digits.Defs

/-!
# Messages

The records of `src/core/types.rs`, `src/core/fixed.rs`,
`src/janus_manager/interface/types.rs` and `TaskProvisionerConfig`, with the names
and the codings of their fields. How a record with such fields is written and read
is up to serde, which is a parameter, as are the codings of the types of other
libraries.
-/

/-- How serde and the other libraries write their types, and the text of an error. -/
structure Codings where
  /-- The natural numbers of so many bits. -/
  unsigned : Nat → Coding Nat
  string : Coding String
  unit : Coding Unit
  option {α : Type} : Coding α → Coding (Option α)
  /-- A derived coding of an enumeration without fields. -/
  variants {α : Type} (name : α → String) (ofName : String → Option α) : Coding α
  /-- A derived coding of a record. -/
  struct {α : Type} : Fields α → Coding α
  /-- A derived coding of a record into which another one is flattened. -/
  flattened {α : Type} : Fields α → Coding α
  role : Coding Role
  hpkeConfig : Coding HpkeConfig
  privacyParameter : Coding ZCdpBudget
  url : Coding Url
  errorText : Error → String

/-- What the crate relies on: serde does what it documents, and the other libraries
read back what they have written. -/
structure Codings.Faithful (C : Codings) : Prop where
  unsigned : ∀ {bits n : Nat}, n < 2 ^ bits →
    (C.unsigned bits).serialize n = .integer n ∧ (C.unsigned bits).Carries n
  unsigned_yields : ∀ bits, (C.unsigned bits).Yields (· < 2 ^ bits)
  string : ∀ s, C.string.Carries s
  unit : C.unit.Carries ()
  option_none : ∀ {α : Type} (c : Coding α), (C.option c).Carries none
  option_some : ∀ {α : Type} (c : Coding α) (a : α), (C.option c).serialize (some a) = c.serialize a
  /-- Whatever is not null is there. -/
  option_deserialize : ∀ {α : Type} (c : Coding α) (j : Json), j ≠ .null →
    (C.option c).deserialize j = (c.deserialize j).map some
  variants : ∀ {α : Type} {name : α → String} {ofName : String → Option α} {a : α},
    ofName (name a) = some a → (C.variants name ofName).Carries a
  struct_serialize : ∀ {α : Type} (fs : Fields α) (a : α),
    (C.struct fs).serialize a = .object (fs.names.zip (fs.serialize a))
  /-- The members of an object come in any order, among others; no field occurs twice. -/
  struct_object : ∀ {α : Type} (fs : Fields α) (members : List (String × Json)),
    (C.struct fs).deserialize (.object members) = fs.deserializeObject members
  struct_text : ∀ {α : Type} (fs : Fields α) (text : String),
    (C.struct fs).deserialize (.string text) = none
  /-- Whatever a record is read from, its fields are read. -/
  struct_yields : ∀ {α : Type} {fs : Fields α} {P : α → Prop}, fs.Yields P → (C.struct fs).Yields P
  flattened_object : ∀ {α : Type} (fs : Fields α) (members : List (String × Json)),
    (C.flattened fs).deserialize (.object members) = fs.deserializeObject members
  role : ∀ role, C.role.Carries role
  hpkeConfig : ∀ config, C.hpkeConfig.Carries config
  privacyParameter : ∀ budget, C.privacyParameter.Carries budget
  url : ∀ url, C.url.Carries url

section
variable {α : Type} {C : Codings}

theorem Codings.Faithful.option_carries (hC : C.Faithful) {c : Coding α} {o : Option α}
    (h : ∀ a, o = some a → c.serialize a ≠ .null ∧ c.Carries a) : (C.option c).Carries o := by
  cases o with
  | none => exact hC.option_none c
  | some a =>
      obtain ⟨hne, ha⟩ := h a rfl
      have hread : c.deserialize (c.serialize a) = some a := ha
      rw [Coding.Carries, hC.option_some, hC.option_deserialize c _ hne, hread, Option.map_some]

theorem Codings.Faithful.struct_carries (hC : C.Faithful) {fs : Fields α} (hnames : fs.names.Nodup)
    {a : α} (h : fs.Carries a) : (C.struct fs).Carries a := by
  rw [Coding.Carries, hC.struct_serialize, hC.struct_object]
  exact Fields.deserializeObject_serialize hnames h

theorem Codings.Faithful.struct_of_shows (hC : C.Faithful) {fs : Fields α}
    (hnames : fs.names.Nodup) {members : List (String × Json)} {a : α} (h : fs.Carries a)
    (hshows : fs.Shows members a) : (C.struct fs).deserialize (.object members) = some a :=
  (hC.struct_object fs members).trans (Fields.deserializeObject_of_shows hnames h hshows)

end

/-! ## Names of fields -/

/-- Drop the underscores and put the letters after them in upper case. -/
def pascalCase : Bool → List Char → List Char
  | _, [] => []
  | capitalize, c :: cs =>
    if c = '_' then pascalCase true cs
    else (if capitalize then c.toUpper else c) :: pascalCase false cs

/-- `#[serde(rename_all = "camelCase")]` -/
def camelCase (field : String) : String :=
  match pascalCase true field.toList with
  | [] => ""
  | c :: cs => String.ofList (c.toLower :: cs)

/-! ## Parameters -/

/-- A `usize` has 64 bits. -/
def VdafParameter.Sized (self : VdafParameter) : Prop := self.gradientLen < 2 ^ 64

instance (self : VdafParameter) : Decidable self.Sized := inferInstanceAs (Decidable (_ < _))

namespace FixedTypeTag

def name : FixedTypeTag → String
  | fixedType16Bit => "FixedType16Bit"
  | fixedType32Bit => "FixedType32Bit"

def ofName : String → Option FixedTypeTag
  | "FixedType16Bit" => some fixedType16Bit
  | "FixedType32Bit" => some fixedType32Bit
  | _ => none

def coding (C : Codings) : Coding FixedTypeTag := C.variants name ofName

theorem coding_carries {C : Codings} (hC : C.Faithful) (tag : FixedTypeTag) :
    (coding C).Carries tag :=
  hC.variants (by cases tag <;> rfl)

end FixedTypeTag

namespace TrainingSessionId

def coding (C : Codings) : Coding TrainingSessionId :=
  (C.unsigned 16).wrap (fun n => ⟨UInt16.ofNat n⟩) fun id => id.value.toNat

variable {C : Codings}

theorem coding_carries (hC : C.Faithful) (id : TrainingSessionId) : (coding C).Carries id :=
  Coding.wrap_carries (hC.unsigned id.value.toNat_lt).2 (by rw [UInt16.ofNat_toNat])

theorem coding_ne_null (hC : C.Faithful) (id : TrainingSessionId) :
    (coding C).serialize id ≠ .null := by
  have hserialize : (coding C).serialize id = .integer id.value.toNat :=
    (hC.unsigned id.value.toNat_lt).1
  rw [hserialize]
  exact nofun

end TrainingSessionId

/-! ## Records -/

section
variable (C : Codings)

def VdafParameter.fields : Fields VdafParameter :=
  (Fields.cons "gradient_len" (C.unsigned 64) none <|
    Fields.cons "privacy_parameter" C.privacyParameter none <|
    Fields.cons "submission_type" (FixedTypeTag.coding C) none .nil).wrap
  (fun (gradientLen, privacyParameter, submissionType, ()) =>
    ⟨gradientLen, privacyParameter, submissionType⟩)
  fun self => (self.gradientLen, self.privacyParameter, self.submissionType, ())

def VdafParameter.coding : Coding VdafParameter := C.struct (VdafParameter.fields C)

def MainLocations.fields : Fields MainLocations :=
  (Fields.cons "external_leader" C.url none <|
    Fields.cons "external_helper" C.url none .nil).wrap
  (fun (externalLeader, externalHelper, ()) => ⟨externalLeader, externalHelper⟩)
  fun self => (self.externalLeader, self.externalHelper, ())

def MainLocations.coding : Coding MainLocations := C.struct (MainLocations.fields C)

def TaskProvisionerConfig.fields : Fields TaskProvisionerConfig :=
  ((Fields.cons "leader_endpoint" C.url none <|
    Fields.cons "helper_endpoint" C.url none .nil).append (MainLocations.fields C)).wrap
  (fun ((leaderEndpoint, helperEndpoint, ()), mainLocations) =>
    ⟨leaderEndpoint, helperEndpoint, mainLocations⟩)
  fun self => ((self.leaderEndpoint, self.helperEndpoint, ()), self.mainLocations)

/-- The main locations are flattened into the configuration. -/
def TaskProvisionerConfig.coding : Coding TaskProvisionerConfig :=
  C.flattened (TaskProvisionerConfig.fields C)

def CreateTrainingSessionRequest.fields : Fields CreateTrainingSessionRequest :=
  ((Fields.cons "training_session_id" (C.option (TrainingSessionId.coding C)) (some none) <|
    Fields.cons "role" C.role none <|
    Fields.cons "verify_key_encoded" C.string none <|
    Fields.cons "collector_hpke_config" C.hpkeConfig none <|
    Fields.cons "collector_auth_token_encoded" C.string none <|
    Fields.cons "leader_auth_token_encoded" C.string none <|
    Fields.cons "vdaf_parameter" (VdafParameter.coding C) none .nil).wrap
  (fun (trainingSessionId, role, verifyKeyEncoded, collectorHpkeConfig, collectorAuthTokenEncoded,
      leaderAuthTokenEncoded, vdafParameter, ()) =>
    ⟨trainingSessionId, role, verifyKeyEncoded, collectorHpkeConfig, collectorAuthTokenEncoded,
      leaderAuthTokenEncoded, vdafParameter⟩)
  fun self => (self.trainingSessionId, self.role, self.verifyKeyEncoded, self.collectorHpkeConfig,
    self.collectorAuthTokenEncoded, self.leaderAuthTokenEncoded, self.vdafParameter, ())).rename
  camelCase

def CreateTrainingSessionRequest.coding : Coding CreateTrainingSessionRequest :=
  C.struct (CreateTrainingSessionRequest.fields C)

/-- `CreateTrainingSessionResponse`, whose only field is the id of the session. -/
def createTrainingSessionResponse : Fields TrainingSessionId :=
  ((Fields.cons "training_session_id" (TrainingSessionId.coding C) none .nil).wrap
    (fun (trainingSessionId, ()) => trainingSessionId) fun id => (id, ())).rename camelCase

def StartRoundRequest.fields : Fields StartRoundRequest :=
  ((Fields.cons "training_session_id" (TrainingSessionId.coding C) none <|
    Fields.cons "task_id_encoded" C.string none .nil).wrap
  (fun (trainingSessionId, taskIdEncoded, ()) => ⟨trainingSessionId, taskIdEncoded⟩)
  fun self => (self.trainingSessionId, self.taskIdEncoded, ())).rename camelCase

def StartRoundRequest.coding : Coding StartRoundRequest :=
  C.struct (StartRoundRequest.fields C)

/-- `StartRoundResponse`, which has no fields. -/
def startRoundResponse : Fields Unit := Fields.nil.rename camelCase

def GetVdafParameterRequest.fields : Fields GetVdafParameterRequest :=
  ((Fields.cons "task_id_encoded" C.string none .nil).wrap
    (fun (taskIdEncoded, ()) => ⟨taskIdEncoded⟩) fun self => (self.taskIdEncoded, ())).rename
  camelCase

def GetVdafParameterRequest.coding : Coding GetVdafParameterRequest :=
  C.struct (GetVdafParameterRequest.fields C)

/-- `GetVdafParameterResponse`, whose only field is the parameter. -/
def getVdafParameterResponse : Fields VdafParameter :=
  ((Fields.cons "vdaf_parameter" (VdafParameter.coding C) none .nil).wrap
    (fun (vdafParameter, ()) => vdafParameter) fun vdafParameter => (vdafParameter, ())).rename
  camelCase

end

/-! ## No field occurs twice -/

section
variable (C : Codings)

theorem VdafParameter.fields_nodup : (VdafParameter.fields C).names.Nodup :=
  show ["gradient_len", "privacy_parameter", "submission_type"].Nodup by decide

theorem MainLocations.fields_nodup : (MainLocations.fields C).names.Nodup :=
  show ["external_leader", "external_helper"].Nodup by decide

theorem TaskProvisionerConfig.fields_nodup : (TaskProvisionerConfig.fields C).names.Nodup :=
  show ["leader_endpoint", "helper_endpoint", "external_leader", "external_helper"].Nodup by decide

theorem CreateTrainingSessionRequest.fields_nodup :
    (CreateTrainingSessionRequest.fields C).names.Nodup :=
  show (["training_session_id", "role", "verify_key_encoded", "collector_hpke_config",
    "collector_auth_token_encoded", "leader_auth_token_encoded", "vdaf_parameter"].map
      camelCase).Nodup by decide

theorem createTrainingSessionResponse_nodup : (createTrainingSessionResponse C).names.Nodup :=
  List.nodup_singleton _

theorem StartRoundRequest.fields_nodup : (StartRoundRequest.fields C).names.Nodup :=
  show (["training_session_id", "task_id_encoded"].map camelCase).Nodup by decide

theorem startRoundResponse_nodup : startRoundResponse.names.Nodup := List.nodup_nil

theorem GetVdafParameterRequest.fields_nodup : (GetVdafParameterRequest.fields C).names.Nodup :=
  List.nodup_singleton _

theorem getVdafParameterResponse_nodup : (getVdafParameterResponse C).names.Nodup :=
  List.nodup_singleton _

end

/-! ## Reading what was written -/

section
variable {C : Codings}

theorem VdafParameter.fields_carries (hC : C.Faithful) {p : VdafParameter} (hp : p.Sized) :
    (VdafParameter.fields C).Carries p :=
  Fields.wrap_carries (Fields.cons_carries (hC.unsigned hp).2
    (Fields.cons_carries (hC.privacyParameter _)
      (Fields.cons_carries (FixedTypeTag.coding_carries hC _) (Fields.nil_carries _)))) rfl

theorem VdafParameter.coding_carries (hC : C.Faithful) {p : VdafParameter} (hp : p.Sized) :
    (VdafParameter.coding C).Carries p :=
  hC.struct_carries (VdafParameter.fields_nodup C) (VdafParameter.fields_carries hC hp)

theorem VdafParameter.coding_yields (hC : C.Faithful) :
    (VdafParameter.coding C).Yields VdafParameter.Sized :=
  hC.struct_yields (Fields.wrap_yields
    (Fields.cons_yields (hC.unsigned_yields 64) nofun (Fields.yields_true _))
    fun _ h => h.1)

theorem MainLocations.fields_carries (hC : C.Faithful) (locations : MainLocations) :
    (MainLocations.fields C).Carries locations :=
  Fields.wrap_carries (Fields.cons_carries (hC.url _)
    (Fields.cons_carries (hC.url _) (Fields.nil_carries _))) rfl

theorem TaskProvisionerConfig.fields_carries (hC : C.Faithful) (config : TaskProvisionerConfig) :
    (TaskProvisionerConfig.fields C).Carries config :=
  Fields.wrap_carries (Fields.append_carries
    (Fields.cons_carries (hC.url _) (Fields.cons_carries (hC.url _) (Fields.nil_carries _)))
    (MainLocations.fields_carries hC _)) rfl

theorem CreateTrainingSessionRequest.fields_carries (hC : C.Faithful)
    {request : CreateTrainingSessionRequest} (hp : request.vdafParameter.Sized) :
    (CreateTrainingSessionRequest.fields C).Carries request :=
  Fields.rename_carries <| Fields.wrap_carries
    (Fields.cons_carries
      (hC.option_carries fun id _ => ⟨id.coding_ne_null hC, id.coding_carries hC⟩) <|
    Fields.cons_carries (hC.role _) <|
    Fields.cons_carries (hC.string _) <|
    Fields.cons_carries (hC.hpkeConfig _) <|
    Fields.cons_carries (hC.string _) <|
    Fields.cons_carries (hC.string _) <|
    Fields.cons_carries (VdafParameter.coding_carries hC hp) (Fields.nil_carries _)) rfl

theorem CreateTrainingSessionRequest.coding_yields (hC : C.Faithful) :
    (CreateTrainingSessionRequest.coding C).Yields fun request => request.vdafParameter.Sized :=
  hC.struct_yields <| Fields.rename_yields <| Fields.wrap_yields
    (Fields.cons_yields (Coding.yields_true _) (fun _ _ => trivial) <|
    Fields.cons_yields (Coding.yields_true _) nofun <|
    Fields.cons_yields (Coding.yields_true _) nofun <|
    Fields.cons_yields (Coding.yields_true _) nofun <|
    Fields.cons_yields (Coding.yields_true _) nofun <|
    Fields.cons_yields (Coding.yields_true _) nofun <|
    Fields.cons_yields (VdafParameter.coding_yields hC) nofun (Fields.yields_true _))
    fun _ h => h.2.2.2.2.2.2.1

theorem createTrainingSessionResponse_carries (hC : C.Faithful) (id : TrainingSessionId) :
    (createTrainingSessionResponse C).Carries id :=
  Fields.rename_carries (Fields.wrap_carries
    (Fields.cons_carries (id.coding_carries hC) (Fields.nil_carries _)) rfl)

theorem StartRoundRequest.fields_carries (hC : C.Faithful) (request : StartRoundRequest) :
    (StartRoundRequest.fields C).Carries request :=
  Fields.rename_carries (Fields.wrap_carries
    (Fields.cons_carries (TrainingSessionId.coding_carries hC _)
      (Fields.cons_carries (hC.string _) (Fields.nil_carries _))) rfl)

theorem startRoundResponse_carries (response : Unit) : startRoundResponse.Carries response :=
  Fields.rename_carries (Fields.nil_carries response)

theorem GetVdafParameterRequest.fields_carries (hC : C.Faithful) (request : GetVdafParameterRequest) :
    (GetVdafParameterRequest.fields C).Carries request :=
  Fields.rename_carries (Fields.wrap_carries
    (Fields.cons_carries (hC.string _) (Fields.nil_carries _)) rfl)

theorem getVdafParameterResponse_carries (hC : C.Faithful) {p : VdafParameter} (hp : p.Sized) :
    (getVdafParameterResponse C).Carries p :=
  Fields.rename_carries (Fields.wrap_carries
    (Fields.cons_carries (VdafParameter.coding_carries hC hp) (Fields.nil_carries _)) rfl)

theorem CreateTrainingSessionRequest.coding_carries (hC : C.Faithful)
    {request : CreateTrainingSessionRequest} (hp : request.vdafParameter.Sized) :
    (CreateTrainingSessionRequest.coding C).Carries request :=
  hC.struct_carries (fields_nodup C) (fields_carries hC hp)

theorem StartRoundRequest.coding_carries (hC : C.Faithful) (request : StartRoundRequest) :
    (StartRoundRequest.coding C).Carries request :=
  hC.struct_carries (fields_nodup C) (fields_carries hC request)

theorem GetVdafParameterRequest.coding_carries (hC : C.Faithful)
    (request : GetVdafParameterRequest) : (GetVdafParameterRequest.coding C).Carries request :=
  hC.struct_carries (fields_nodup C) (fields_carries hC request)

theorem MainLocations.coding_carries (hC : C.Faithful) (locations : MainLocations) :
    (MainLocations.coding C).Carries locations :=
  hC.struct_carries (fields_nodup C) (fields_carries hC locations)

end

/-! ## A plain instance -/

namespace Codings

/-- The names of the registered algorithms. -/
def kemIds : List (UInt16 × String) := [(0x0010, "P256HkdfSha256"), (0x0020, "X25519HkdfSha256")]
def kdfIds : List (UInt16 × String) := [(1, "HkdfSha256"), (2, "HkdfSha384"), (3, "HkdfSha512")]
def aeadIds : List (UInt16 × String) :=
  [(1, "Aes128Gcm"), (2, "Aes256Gcm"), (3, "ChaCha20Poly1305")]

/-- A registered number is written as its name, any other one as a number. -/
def registered (ids : List (UInt16 × String)) : Coding UInt16 where
  serialize n := ((ids.find? (·.1 = n)).map fun entry => Json.string entry.2).getD
    (.integer n.toNat)
  deserialize
    | .string name => (ids.find? (·.2 = name)).map (·.1)
    | .integer n => some (UInt16.ofNat n.toNat)
    | _ => none

theorem registered_carries {ids : List (UInt16 × String)}
    (h : ∀ entry ∈ ids, ids.find? (·.2 = entry.2) = some entry) (n : UInt16) :
    (registered ids).Carries n := by
  cases hfind : ids.find? (·.1 = n) with
  | none => simp [Coding.Carries, registered, hfind]
  | some entry =>
      have hentry := h entry (List.mem_of_find?_eq_some hfind)
      have hn : entry.1 = n := by simpa using List.find?_some hfind
      simp [Coding.Carries, registered, hfind, hentry, hn]

def base64Url : Coding (List UInt8) where
  serialize bytes := .string (Base64Url.encode bytes)
  deserialize
    | .string s => (Base64Url.decode s).toOption
    | _ => none

theorem base64Url_carries (bytes : List UInt8) : base64Url.Carries bytes := by
  simp [Coding.Carries, base64Url, Base64Url.decode_encode, Except.toOption]

/-- A big number is written as its digits of 32 bits, the lowest one first. -/
def bigUint : Coding Nat where
  serialize n := .array ((Nat.digits (2 ^ 32) n).map fun digit : Nat => .integer digit)
  deserialize
    | .array digits => (digits.mapM (Coding.unsigned 32).deserialize).map (Nat.ofDigits (2 ^ 32))
    | _ => none

theorem bigUint_carries (n : Nat) : bigUint.Carries n := by
  have hdigits : ∀ l : List Nat, (∀ digit ∈ l, digit < 2 ^ 32) →
      (l.map fun digit : Nat => Json.integer digit).mapM (Coding.unsigned 32).deserialize = some l := by
    intro l hl
    induction l with
    | nil => rfl
    | cons digit l ih =>
        have hread : (Coding.unsigned 32).deserialize (.integer digit) = some digit :=
          Coding.unsigned_carries (hl digit List.mem_cons_self)
        rw [List.map_cons, List.mapM_cons, hread, ih fun d hd => hl d (List.mem_cons_of_mem _ hd)]
        rfl
  simp only [Coding.Carries, bigUint,
    hdigits _ fun d hd => Nat.digits_lt_base (by norm_num) hd, Option.map_some,
    Nat.ofDigits_digits]

/-- The derived coding of a HPKE configuration. -/
def hpkeConfigFields : Fields HpkeConfig :=
  (Fields.cons "id" ((Coding.unsigned 8).wrap UInt8.ofNat UInt8.toNat) none <|
    Fields.cons "kem_id" (registered kemIds) none <|
    Fields.cons "kdf_id" (registered kdfIds) none <|
    Fields.cons "aead_id" (registered aeadIds) none <|
    Fields.cons "public_key" base64Url none .nil).wrap
  (fun (id, kemId, kdfId, aeadId, publicKey, ()) => ⟨id, kemId, kdfId, aeadId, publicKey⟩)
  fun config => (config.id, config.kemId, config.kdfId, config.aeadId, config.publicKey, ())

theorem hpkeConfigFields_carries (config : HpkeConfig) : hpkeConfigFields.Carries config :=
  Fields.wrap_carries
    (Fields.cons_carries (Coding.wrap_carries (Coding.unsigned_carries config.id.toNat_lt)
      (by rw [UInt8.ofNat_toNat])) <|
    Fields.cons_carries (registered_carries (by decide) _) <|
    Fields.cons_carries (registered_carries (by decide) _) <|
    Fields.cons_carries (registered_carries (by decide) _) <|
    Fields.cons_carries (base64Url_carries _) (Fields.nil_carries _)) rfl

/-- A fraction is written as the pair of numerator and denominator. -/
def fraction : Coding ℚ≥0 where
  serialize q := .array [bigUint.serialize q.num, bigUint.serialize q.den]
  deserialize
    | .array [numerator, denominator] => do
      let num ← bigUint.deserialize numerator
      let den ← bigUint.deserialize denominator
      if den = 0 then none else some (num / den)
    | _ => none

theorem fraction_carries (q : ℚ≥0) : fraction.Carries q := by
  have hnum : bigUint.deserialize (bigUint.serialize q.num) = some q.num := bigUint_carries _
  have hden : bigUint.deserialize (bigUint.serialize q.den) = some q.den := bigUint_carries _
  simp only [Coding.Carries, fraction, hnum, hden, Option.bind_eq_bind, Option.bind_some,
    NNRat.den_ne_zero, if_false, NNRat.num_div_den]

def budgetFields : Fields ZCdpBudget :=
  (Fields.cons "epsilon" fraction none .nil).wrap (fun (epsilon, ()) => ⟨epsilon⟩)
    fun budget => (budget.epsilon, ())

def roleName : Role → String
  | .collector => "Collector"
  | .client => "Client"
  | .leader => "Leader"
  | .helper => "Helper"

def roleOfName : String → Option Role
  | "Collector" => some .collector
  | "Client" => some .client
  | "Leader" => some .leader
  | "Helper" => some .helper
  | _ => none

/-- The sample URL is written as its text, any other one by its parts. -/
def plainUrl : Coding Url where
  serialize url :=
    if url = Sample.url then .string "https://localhost:9981/"
    else .array [.string url.scheme, (Coding.option .string).serialize url.host,
      (Coding.option ((Coding.unsigned 16).wrap UInt16.ofNat UInt16.toNat)).serialize url.port,
      .string url.path]
  deserialize
    | .string text => if text = "https://localhost:9981/" then some Sample.url else none
    | .array [.string scheme, host, port, .string path] => do
      let host ← (Coding.option .string).deserialize host
      let port ← (Coding.option ((Coding.unsigned 16).wrap UInt16.ofNat UInt16.toNat)).deserialize port
      return ⟨scheme, host, port, path⟩
    | _ => none

theorem plainUrl_carries (url : Url) : plainUrl.Carries url := by
  obtain ⟨scheme, host, port, path⟩ := url
  have hhost : (Coding.option .string).deserialize ((Coding.option .string).serialize host) =
      some host :=
    Coding.option_carries fun name _ => ⟨nofun, Coding.string_carries name⟩
  have hport : (Coding.option ((Coding.unsigned 16).wrap UInt16.ofNat UInt16.toNat)).deserialize
      ((Coding.option ((Coding.unsigned 16).wrap UInt16.ofNat UInt16.toNat)).serialize port) =
      some port :=
    Coding.option_carries fun n _ => ⟨nofun, Coding.wrap_carries
      (Coding.unsigned_carries n.toNat_lt) (by rw [UInt16.ofNat_toNat])⟩
  simp only [Coding.Carries, plainUrl]
  split_ifs with hsample
  · simp only [if_true, hsample]
  · simp only [hhost, hport, Option.bind_eq_bind, Option.bind_some, Option.pure_def]

/-- A plain instance, for evaluating the model. -/
def plain : Codings where
  unsigned := .unsigned
  string := .string
  unit := .unit
  option := .option
  variants := .variants
  struct := Fields.struct
  flattened := Fields.flattened
  role := .variants roleName roleOfName
  hpkeConfig := hpkeConfigFields.struct
  privacyParameter := budgetFields.struct
  url := plainUrl
  errorText
    | .anyhow message => message
    | .context message _ => message
    | _ => "error"

theorem plain_faithful : plain.Faithful where
  unsigned h := ⟨rfl, Coding.unsigned_carries h⟩
  unsigned_yields := Coding.unsigned_yields
  string := Coding.string_carries
  unit := rfl
  option_none _ := rfl
  option_some _ _ := rfl
  option_deserialize _ _ h := Coding.option_deserialize h
  variants h := h
  struct_serialize _ _ := rfl
  struct_object _ _ := rfl
  struct_text _ _ := rfl
  struct_yields h := Fields.struct_yields h
  flattened_object _ _ := rfl
  role role := by cases role <;> rfl
  hpkeConfig config :=
    Fields.struct_carries (show ["id", "kem_id", "kdf_id", "aead_id", "public_key"].Nodup by decide)
      (hpkeConfigFields_carries config)
  privacyParameter budget :=
    Fields.struct_carries (List.nodup_singleton _)
      (Fields.wrap_carries (Fields.cons_carries (fraction_carries _) (Fields.nil_carries _)) rfl)
  url := plainUrl_carries

end Codings

/-! ## Members in any order -/

/-- A session id, which is the request to end its session, and the unit that is the
response to it are read back. Every other message and the configuration are read back
from each object that has the members written of them, in any order and among any
others. Only requests with a gradient length of 64 bits are read. -/
theorem messages_read_back {C : Codings} (hC : C.Faithful) :
    (∀ id, (TrainingSessionId.coding C).deserialize ((TrainingSessionId.coding C).serialize id) =
      some id) ∧
    C.unit.deserialize (C.unit.serialize ()) = some () ∧
    (∀ (request : CreateTrainingSessionRequest) members, request.vdafParameter.Sized →
      (CreateTrainingSessionRequest.fields C).Shows members request →
      (CreateTrainingSessionRequest.coding C).deserialize (.object members) = some request) ∧
    (∀ request members, (StartRoundRequest.fields C).Shows members request →
      (StartRoundRequest.coding C).deserialize (.object members) = some request) ∧
    (∀ request members, (GetVdafParameterRequest.fields C).Shows members request →
      (GetVdafParameterRequest.coding C).deserialize (.object members) = some request) ∧
    (∀ id members, (createTrainingSessionResponse C).Shows members id →
      (C.struct (createTrainingSessionResponse C)).deserialize (.object members) = some id) ∧
    (∀ response members, startRoundResponse.Shows members response →
      (C.struct startRoundResponse).deserialize (.object members) = some response) ∧
    (∀ (vdafParameter : VdafParameter) members, vdafParameter.Sized →
      (getVdafParameterResponse C).Shows members vdafParameter →
      (C.struct (getVdafParameterResponse C)).deserialize (.object members) = some vdafParameter) ∧
    (∀ locations members, (MainLocations.fields C).Shows members locations →
      (MainLocations.coding C).deserialize (.object members) = some locations) ∧
    (∀ config members, (TaskProvisionerConfig.fields C).Shows members config →
      (TaskProvisionerConfig.coding C).deserialize (.object members) = some config) ∧
    ∀ j request, (CreateTrainingSessionRequest.coding C).deserialize j = some request →
      request.vdafParameter.Sized := by
  refine ⟨fun id => id.coding_carries hC, hC.unit, ?_, ?_, ?_, ?_, ?_, ?_, ?_, ?_,
    CreateTrainingSessionRequest.coding_yields hC⟩
  · intro request members hsized hshows
    exact hC.struct_of_shows (CreateTrainingSessionRequest.fields_nodup C)
      (CreateTrainingSessionRequest.fields_carries hC hsized) hshows
  · intro request members hshows
    exact hC.struct_of_shows (StartRoundRequest.fields_nodup C)
      (StartRoundRequest.fields_carries hC request) hshows
  · intro request members hshows
    exact hC.struct_of_shows (GetVdafParameterRequest.fields_nodup C)
      (GetVdafParameterRequest.fields_carries hC request) hshows
  · intro id members hshows
    exact hC.struct_of_shows (createTrainingSessionResponse_nodup C)
      (createTrainingSessionResponse_carries hC id) hshows
  · intro response members hshows
    exact hC.struct_of_shows startRoundResponse_nodup (startRoundResponse_carries response) hshows
  · intro vdafParameter members hsized hshows
    exact hC.struct_of_shows (getVdafParameterResponse_nodup C)
      (getVdafParameterResponse_carries hC hsized) hshows
  · intro locations members hshows
    exact hC.struct_of_shows (MainLocations.fields_nodup C)
      (MainLocations.fields_carries hC locations) hshows
  · intro config members hshows
    exact (hC.flattened_object _ _).trans (Fields.deserializeObject_of_shows
      (TaskProvisionerConfig.fields_nodup C) (TaskProvisionerConfig.fields_carries hC config) hshows)

namespace Sample

/-- The members of the request in reverse order, after one that is not known. -/
def reversedMembers : List (String × Json) :=
  ("unknown", .null) ::
    ((CreateTrainingSessionRequest.fields .plain).names.zip
      ((CreateTrainingSessionRequest.fields .plain).serialize (createRequest none [1]))).reverse

theorem reversedMembers_shows :
    (CreateTrainingSessionRequest.fields .plain).Shows reversedMembers (createRequest none [1]) :=
  ((List.reverse_perm _).filter _).trans (.of_eq (Fields.known_zip _))

theorem reversedMembers_read :
    (CreateTrainingSessionRequest.coding .plain).deserialize (.object reversedMembers) =
        some (createRequest none [1]) ∧
      (TrainingSessionId.coding .plain).deserialize (.integer 5) = some ⟨5⟩ := by
  obtain ⟨hid, -, hrequest, -⟩ := messages_read_back Codings.plain_faithful
  exact ⟨hrequest _ _ (by decide) reversedMembers_shows, hid ⟨5⟩⟩

end Sample
