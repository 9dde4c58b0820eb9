import ClientGen.Client

namespace ClientGen

/-- What a client is generated from. -/
inductive Descriptor where
  | entries (es : List (String × Datum))
  /-- A path, with what reading the file there gave, and with what reads YAML. -/
  | file (yaml : YamlReader) (path : DescriptorPath) (contents : Except ReadFault (List UInt8))

/-- Why a run ends without a client. -/
inductive RunError where
  | generation (e : GenerationError)
  | breakdown (b : Breakdown)
  deriving DecidableEq

def RunError.ofLoad : LoadError → RunError
  | .descriptor e => .generation (.descriptor e)
  | .breakdown b => .breakdown b

def RunError.message : RunError → String
  | .generation e => e.message
  | .breakdown b => b.message

namespace Descriptor

def load : Descriptor → Except LoadError Document
  | .entries es => (DescriptorFile.readDocument (.object es)).mapError .descriptor
  | .file yaml path contents => DescriptorFile.load yaml path contents

def generate (d : Descriptor) (overrides : List (String × Datum)) : Except RunError Generated := do
  let document ← d.load.mapError .ofLoad
  (document.generate overrides).mapError .generation

end Descriptor

end ClientGen
