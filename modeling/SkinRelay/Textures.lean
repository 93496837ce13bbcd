import SkinRelay.Base64
import SkinRelay.Json.Format

/-!
Textures: what a player looks like. They travel inside a property of the player's profile, as
JSON in base64. The URL-safe alphabet is written; the standard one is accepted too.
-/

namespace SkinRelay

/-- The model of a skin, named only when it differs from the usual one. -/
structure SkinModel where
  name : String
  deriving DecidableEq, Repr

structure Skin where
  url : String
  model : Option SkinModel := none
  deriving DecidableEq, Repr

structure Cape where
  url : String
  deriving DecidableEq, Repr

/-- The textures of a player, each of which may be absent. -/
structure Textures where
  skin : Option Skin := none
  cape : Option Cape := none
  deriving DecidableEq, Repr

/-- The content of a textures property. -/
structure TexturesRecord where
  /-- Unix time in milliseconds. -/
  timestamp : Int64
  profileId : String
  profileName : String
  textures : Textures
  deriving DecidableEq, Repr

def SkinModel.format : Json.Format SkinModel where
  schema := .record <| .cons "model" .required .text .nil
  ofCarrier := fun (name, ()) => { name }
  toCarrier := fun m => (m.name, ())
  ofCarrier_toCarrier _ := rfl

def Skin.format : Json.Format Skin where
  schema := .record <|
    .cons "url" .required .text <|
    .cons "metadata" .elided (Json.Format.option SkinModel.format).schema .nil
  ofCarrier := fun (url, model, ()) =>
    { url, model := (Json.Format.option SkinModel.format).ofCarrier model }
  toCarrier := fun s => (s.url, (Json.Format.option SkinModel.format).toCarrier s.model, ())
  ofCarrier_toCarrier s := by simp only [Json.Format.ofCarrier_toCarrier]

def Cape.format : Json.Format Cape where
  schema := .record <| .cons "url" .required .text .nil
  ofCarrier := fun (url, ()) => { url }
  toCarrier := fun c => (c.url, ())
  ofCarrier_toCarrier _ := rfl

def Textures.format : Json.Format Textures where
  schema := .record <|
    .cons "SKIN" .elided (Json.Format.option Skin.format).schema <|
    .cons "CAPE" .elided (Json.Format.option Cape.format).schema .nil
  ofCarrier := fun (skin, cape, ()) =>
    { skin := (Json.Format.option Skin.format).ofCarrier skin
      cape := (Json.Format.option Cape.format).ofCarrier cape }
  toCarrier := fun t =>
    ((Json.Format.option Skin.format).toCarrier t.skin,
      (Json.Format.option Cape.format).toCarrier t.cape, ())
  ofCarrier_toCarrier t := by simp only [Json.Format.ofCarrier_toCarrier]

namespace TexturesRecord

def format : Json.Format TexturesRecord where
  schema := .record <|
    .cons "timestamp" .required .int64 <|
    .cons "profileId" .required .text <|
    .cons "profileName" .required .text <|
    .cons "textures" .defaulted Textures.format.schema .nil
  ofCarrier := fun (timestamp, profileId, profileName, textures, ()) =>
    { timestamp, profileId, profileName, textures := Textures.format.ofCarrier textures }
  toCarrier := fun r =>
    (r.timestamp, r.profileId, r.profileName, Textures.format.toCarrier r.textures, ())
  ofCarrier_toCarrier r := by simp only [Json.Format.ofCarrier_toCarrier]

/-- Why the value of a textures property cannot be decoded. -/
inductive Fault where
  | encoding (fault : Base64.Fault)
  | payload (fault : Json.Fault)
  deriving DecidableEq, Repr

def Fault.message : Fault → String
  | .encoding fault => "invalid textures encoding: " ++ fault.message
  | .payload _ => "invalid textures payload"

/-- The bytes inside a property value. When neither alphabet fits, the fault is that of the
URL-safe one. -/
def unwrap (value : Bytes) : Except Base64.Fault Bytes :=
  match Base64.decode Base64.urlSafe value with
  | .ok bytes => .ok bytes
  | .error fault =>
    match Base64.decode Base64.standard value with
    | .ok bytes => .ok bytes
    | .error _ => .error fault

/-- Decodes the value of a textures property. -/
def decode (value : String) : Except Fault TexturesRecord :=
  match unwrap (Utf8.ofString value) with
  | .error fault => .error (.encoding fault)
  | .ok bytes =>
    match format.read bytes with
    | .error fault => .error (.payload fault)
    | .ok record => .ok record

/-- The value of a textures property. -/
def encode (record : TexturesRecord) : String :=
  String.ofList
    ((Base64.encode Base64.urlSafe (Utf8.ofString (format.write record))).map
      fun b => Char.ofNat b.toNat)

end TexturesRecord

end SkinRelay
