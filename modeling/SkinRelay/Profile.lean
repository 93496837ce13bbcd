import SkinRelay.Textures

/-!
Profiles: what the session server knows about an account, a list of properties each of which it
may have signed.
-/

namespace SkinRelay

structure Property where
  name : String
  signature : Option String := none
  value : String
  deriving DecidableEq, Repr

structure Profile where
  id : String
  name : String
  properties : List Property := []
  deriving DecidableEq, Repr

def Property.format : Json.Format Property where
  schema := .record <|
    .cons "name" .required .text <|
    .cons "signature" .elided (.option .text) <|
    .cons "value" .required .text .nil
  ofCarrier := fun (name, signature, value, ()) => { name, signature, value }
  toCarrier := fun p => (p.name, p.signature, p.value, ())
  ofCarrier_toCarrier _ := rfl

namespace Profile

def format : Json.Format Profile where
  schema := .record <|
    .cons "id" .required .text <|
    .cons "name" .required .text <|
    .cons "properties" .defaulted (Json.Format.list Property.format).schema .nil
  ofCarrier := fun (id, name, properties, ()) =>
    { id, name, properties := (Json.Format.list Property.format).ofCarrier properties }
  toCarrier := fun p =>
    (p.id, p.name, (Json.Format.list Property.format).toCarrier p.properties, ())
  ofCarrier_toCarrier p := by simp only [Json.Format.ofCarrier_toCarrier]

/-- The name of the property that holds the textures. -/
def texturesKey : String := "textures"

/-- The first property that is said to hold textures. -/
def texturesProperty? (profile : Profile) : Option Property :=
  profile.properties.find? (·.name == texturesKey)

/-- The textures of a profile: `none` when it has no such property or an empty one. -/
def textures (profile : Profile) : Except TexturesRecord.Fault (Option TexturesRecord) :=
  match profile.texturesProperty? with
  | none => .ok none
  | some property =>
    if property.value.isEmpty then .ok none
    else
      match TexturesRecord.decode property.value with
      | .error fault => .error fault
      | .ok record => .ok (some record)

end Profile

/-! ### Shared profiles -/

/-- A profile that several hold, and what became of its textures, once anybody has asked for them. -/
structure SharedProfile where
  profile : Profile
  decoded : Option (Except TexturesRecord.Fault (Option TexturesRecord)) := none

/-- The textures of a shared profile. Only who asks first decodes them; the outcome is kept, also if
it is a fault. -/
def SharedProfile.textures (shared : SharedProfile) :
    Except TexturesRecord.Fault (Option TexturesRecord) × SharedProfile :=
  match shared.decoded with
  | some outcome => (outcome, shared)
  | none => (shared.profile.textures, { shared with decoded := some shared.profile.textures })

/-! ### Summaries -/

/-- The textures of a player in brief. -/
structure Summary where
  id : String
  name : String
  skin : Option Skin
  cape : Option Cape
  deriving DecidableEq, Repr

namespace Summary

/-- The summary of a profile with these textures, `none` when there is neither skin nor cape. -/
def of? (profile : Profile) (record : Option TexturesRecord) : Option Summary :=
  match record with
  | none => none
  | some { textures := { skin := none, cape := none }, .. } => none
  | some { textures := { skin, cape }, .. } =>
    some { id := profile.id, name := profile.name, skin, cape }

/-- A skin with the name of its model beside the URL. -/
def skinValue (skin : Skin) : Json.Value :=
  .object <| ("url", .text skin.url) ::
    (skin.model.map fun model => ("model", .text model.name)).toList

def capeValue (cape : Cape) : Json.Value := .object [("url", .text cape.url)]

def toValue (summary : Summary) : Json.Value :=
  .object <| ("id", .text summary.id) :: ("name", .text summary.name) ::
    ((summary.skin.map fun skin => ("skin", skinValue skin)).toList ++
      (summary.cape.map fun cape => ("cape", capeValue cape)).toList)

/-- The JSON text of a summary. -/
def write (summary : Summary) : String := summary.toValue.render

end Summary

end SkinRelay
