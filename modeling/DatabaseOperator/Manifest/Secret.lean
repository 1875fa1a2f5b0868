import DatabaseOperator.Manifest.Metadata

/-!
# Secrets and other objects next to a resource

- `checkBuiltIn?`: the part that Secrets and ConfigMaps have in common.
- `Secret`: named byte strings, with the texts that are yet to be encoded.
- `Secret.read?`, `Secret.hasData`: one key as text, and whether there is any
  content.
- `standardLabels`: the labels of what the operator makes for a resource.
- `walletSecret`: the document of the Secret that holds a wallet.
- `ConfigMap`: named texts.
-/

namespace DatabaseOperator

/-! ## Documents of the cluster's own kinds -/

/-- What documents of the cluster's own kinds have in common: a version and a
kind, which may be left out and are exact if they are there, the mark of a
document that does not change, and metadata. -/
def checkBuiltIn? (kind : String) (fs : List (String × Json)) :
    Option Unit := do
  let exactly := fun (text : String) (j : Json) => j.string?.filter (· = text)
  let _ ← Json.defaulted? "apiVersion" (exactly "v1") "v1" fs
  let _ ← Json.defaulted? "kind" (exactly kind) kind fs
  let _ ← Json.optional? "immutable" Json.bool? fs
  let _ ← Json.optional? "metadata" Metadata.ofJson? fs

/-- The form of documents of a kind of the cluster's own, with the fields that
the kind adds. -/
def builtInForm (kind : String)
    (more : List (String × Json.Presence × Json.Form)) : Json.Form :=
  .record kind false
    ([("apiVersion", .defaulted, .exactly "v1"),
      ("kind", .defaulted, .exactly kind), ("immutable", .optional, .flag),
      ("metadata", .optional, Metadata.form)] ++ more)

/-! ## Secrets -/

/-- Named byte strings. `stringData` holds texts that the cluster has not moved
into `data` yet. -/
structure Secret where
  data : Option (Dict ByteArray) := none
  stringData : Option (Dict String) := none

namespace Secret

/-- Some value is not empty. -/
def hasData (s : Secret) : Bool :=
  (s.data.any fun d => d.values.any fun bytes => bytes.size != 0)
    || (s.stringData.any fun d => d.values.any fun text => text != "")

/-- The text under a key. A byte string counts before a text, and counts as
absent if it is not UTF-8. -/
def read? (s : Secret) (key : String) : Option String :=
  match s.data.bind (·.get? key) with
  | some bytes => String.fromUTF8? bytes
  | none => s.stringData.bind (·.get? key)

/-- The bytes of a JSON text in base64; `null` stands for no bytes. -/
def bytes? : Json → Option ByteArray
  | .null => some ByteArray.empty
  | .string s => Base64.decode? s
  | _ => none

/-- The form of a Secret. -/
def form : Json.Form :=
  builtInForm "Secret"
    [("data", .optional, .dict .bytes), ("stringData", .optional, .dict .text),
      ("type", .optional, .text)]

/-- The Secret of a document. -/
def ofJson? : Json → Option Secret
  | .object fs => do
    checkBuiltIn? "Secret" fs
    let _ ← Json.optional? "type" Json.string? fs
    some
      { data := ← Json.optional? "data" (Json.dict? bytes?) fs
        stringData := ← Json.optional? "stringData" Json.texts? fs }
  | _ => none

end Secret

/-! ## What the operator makes -/

/-- The name under which the operator writes fields. -/
def fieldManager : String := "oracle-db-operator"

/-- The labels of an object made for a resource. -/
def standardLabels (owner component : String) : Dict String :=
  Dict.ofList
    [("app.kubernetes.io/name", owner),
      ("app.kubernetes.io/component", component),
      ("app.kubernetes.io/managed-by", fieldManager),
      (apiGroup ++ "/owner", owner)]

/-- The key under which a Secret holds a wallet. -/
def walletKey : String := "wallet.zip"

/-- The document of a Secret that holds a wallet. -/
def walletSecret (owner : OwnerReference) (name namespaceName : String)
    (data : Dict ByteArray) : Json :=
  .object
    [("apiVersion", .string "v1"),
      ("kind", .string "Secret"),
      ("metadata", .object
        [("name", .string name),
          ("namespace", .string namespaceName),
          ("labels", .ofTexts (standardLabels owner.name "wallet")),
          ("ownerReferences", .array [owner.toJson])]),
      ("type", .string "Opaque"),
      ("data", .ofTexts (data.map Base64.encode))]

/-! ## ConfigMaps -/

/-- The form of a ConfigMap. -/
def configMapForm : Json.Form :=
  builtInForm "ConfigMap" [("binaryData", .optional, .dict .bytes),
    ("data", .optional, .dict .text)]

/-- The texts of the ConfigMap of a document. -/
def configMapData? : Json → Option (Dict String)
  | .object fs => do
    checkBuiltIn? "ConfigMap" fs
    let _ ← Json.optional? "binaryData" (Json.dict? Secret.bytes?) fs
    return (← Json.optional? "data" Json.texts? fs).getD ∅
  | _ => none

end DatabaseOperator
