import IccProfile.Profile.Embedding
import IccProfile.Profile.Written

/-!
# Using a profile

All that can be asked of a profile, as data. `Profile.serve` answers a request and
gives the profile as it is afterwards. Questions change a profile only in what it
remembers: the tag list once it was needed, and the identity once it was asked for.
-/

set_option autoImplicit false

namespace IccProfile

/-- What can be asked of a profile. -/
inductive Request
  | setField (field : HeaderField) (value : UInt32)
  | addText (signature : Signature) (text : String)
  | addTag (tag : Tag) (position : Option Nat)
  | removeTag (signature : Signature)
  | addDevice (properties : Properties) (options : EmbedOptions)
  | repairId
  | setFileName (name : Option Path)
  | setMetaFilter (device : Option Device)
  | field (field : HeaderField)
  | header
  | headerBytes
  | rawBytes
  | fileName
  | metaFilter
  | materialize
  | tags
  | headerTag
  | tagAt (position : Nat)
  | tagOf (signature : Signature)
  | textFor (signature : Signature) (language country : String)
  | texts (signature : Signature) (language? country? : Option String)
  | deviceProperties
  | toBytes
  | id (force : Bool)
  | checkId
deriving DecidableEq, Inhabited

/-- The answer to a request. -/
inductive Reply
  | done
  | failed (error : Error)
  | word (value : UInt32)
  | header (header : Option Header)
  | bytes (bytes : Option Bytes)
  | fileName (name : Option Path)
  | device (device : Option Device)
  | tags (tags : List Tag)
  | tag (tag : Option Tag)
  | text (text : Option String)
  | texts (texts : Option (List String))
  | properties (properties : Properties)
  | id (id : ProfileId)
  | check (check : IdCheck)
deriving DecidableEq, Inhabited

/-- Whether a request is a question, which changes nothing but what is remembered. -/
def Request.isQuestion : Request → Bool
  | .setField .. | .addText .. | .addTag .. | .removeTag .. | .addDevice .. | .repairId
  | .setFileName .. | .setMetaFilter .. => false
  | _ => true

namespace Profile

/-- The answer to a change that may fail; a failed one leaves the profile as it was. -/
def answerChange (p : Profile) : Except Error Profile → Reply × Profile
  | .ok q => (.done, q)
  | .error error => (.failed error, p)

/-- The answer to a request, and the profile afterwards. -/
def serve (p : Profile) : Request → Reply × Profile
  | .setField f value => (.done, p.setField f value)
  | .addText signature text => p.answerChange (p.addText signature text)
  | .addTag tag position => p.answerChange (p.addTag tag position)
  | .removeTag signature =>
    let (tag, q) := p.removeTag signature
    (.tag tag, q)
  | .addDevice properties options => p.answerChange (p.addDevice properties options)
  | .repairId => (.id p.computedId, p.repairId)
  | .setFileName name => (.done, { p with fileName := name })
  | .setMetaFilter device => (.done, { p with metaFilter := device })
  | .field f => (.word (p.field f), p)
  | .header => (.header p.headerParts?, p)
  | .headerBytes => (.bytes (p.header.map (·.val)), p)
  | .rawBytes => (.bytes p.raw, p)
  | .fileName => (.fileName p.fileName, p)
  | .metaFilter => (.device p.metaFilter, p)
  | .materialize => (.done, p.materialized)
  | .tags => (.tags p.tags, p.materialized)
  | .headerTag => (.tag p.headerTag?, p.materialized)
  | .tagAt position => (.tag p.tags[position]?, p.materialized)
  | .tagOf signature => (.tag (p.tag? signature), p.materialized)
  | .textFor signature language country =>
    (.text (p.textFor signature language country), p.materialized)
  | .texts signature language? country? =>
    (.texts ((p.tag? signature).map fun tag => tag.texts language? country?), p.materialized)
  | .deviceProperties => (.properties p.deviceProperties, p.materialized)
  | .toBytes => (.bytes (some p.toBytes), p.afterWriting)
  | .id true => (.id p.computedId, p.afterWriting)
  | .id false => (.id p.id, p.afterId)
  | .checkId => (.check p.checkId, p.afterCheck)

/-- The answers to requests made one after the other, and the profile afterwards. -/
def serveAll (p : Profile) : List Request → List Reply × Profile
  | [] => ([], p)
  | request :: rest =>
    let (reply, q) := p.serve request
    let (replies, r) := q.serveAll rest
    (reply :: replies, r)

/-- Whether two profiles have the same identity, and both profiles afterwards. -/
def compareIds (p q : Profile) : Bool × Profile × Profile := (p.id = q.id, p.afterId, q.afterId)

end Profile

end IccProfile
