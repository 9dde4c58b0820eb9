import ClientGen.CommandLine.Program
import ClientGen.Descriptor
import ClientGen.Proofs.FirstDefect
import ClientGen.Proofs.Generation
import ClientGen.Proofs.JsonValue

namespace ClientGen

namespace DescriptorFile
variable {yaml : YamlReader} {path : DescriptorPath} {text : List Char} {bytes : List UInt8}
  {contents : Except ReadFault (List UInt8)} {f : DescriptorFile} {b : Breakdown}

theorem ofText_json (h : path.isYaml = false) : ofText yaml path text = ofJson text :=
  if_neg (Bool.eq_false_iff.1 h)

theorem ofJson_of_datum {v : Json.Value} {datum : Datum} (hp : Json.parse text = .ok v)
    (hd : v.datum? = some datum) : ofJson text = .ok { datum } := by
  rw [ofJson, hp]
  dsimp only
  rw [hd]

/-- Whether bytes are a text in JSON in which half of a surrogate pair stands. -/
def HoldHalf (bytes : List UInt8) : Prop :=
  ∃ text v, Text.Utf8.decode bytes = .ok text ∧
    Json.parse (Text.unifyNewlines text) = .ok v ∧ v.HoldsHalf

theorem load_of_ofBytes (hn : '\x00' ∉ path.toString.toList)
    (h : ofBytes yaml path bytes = .ok f) : load yaml path (.ok bytes) = f.document := by
  rw [load, String.contains_char_eq, if_neg (by simp [hn])]
  change (do (← ofBytes yaml path bytes).document) = _
  rw [h]
  rfl

end DescriptorFile

namespace Descriptor

/-- Whether a descriptor is a file that was read and has half of a surrogate pair in it. -/
def HoldsHalf : Descriptor → Prop
  | .entries _ => False
  | .file _ _ contents => ∃ bytes, contents = .ok bytes ∧ DescriptorFile.HoldHalf bytes

end Descriptor

/-- The program breaks down exactly if the file cannot be loaded and nothing is told of it. -/
theorem CommandLine.execute_eq_error_iff {yaml : YamlReader} {o : CommandLine.Options}
    {contents : Except ReadFault (List UInt8)} {b : Breakdown} :
    execute yaml o contents = .error b ↔
      DescriptorFile.load yaml o.path contents = .error (.breakdown b) := by
  rw [execute]
  cases DescriptorFile.load yaml o.path contents with
  | ok d =>
    constructor
    · rintro ⟨⟩
    · rintro ⟨⟩
  | error e =>
    cases e with
    | descriptor e =>
      constructor
      · rintro ⟨⟩
      · rintro ⟨⟩
    | breakdown b' =>
      constructor
      · rintro ⟨⟩
        rfl
      · rintro ⟨⟩
        rfl

/-- How a run ends: the descriptor cannot be loaded, the method case that is given is not offered,
an operation cannot be assembled, and the first such is told, or there is a client. -/
inductive Ends (d : Descriptor) (overrides : List (String × Datum)) :
    Except RunError Generated → Prop where
  | unloaded {e : DescriptorError} (load : d.load = .error (.descriptor e)) :
    Ends d overrides (.error (.generation (.descriptor e)))
  | unsupported {document : Document} {v : String} (load : d.load = .ok document)
      (given : (TextOption.methodCase.key, .text v) ∈ overrides)
      (unknown : MethodCase.ofLabel? v = none) :
    Ends d overrides (.error (.generation (.descriptor (.document (.profile
      (.unsupportedMethodCase v))))))
  | unassembled {document : Document} {p : Profile} {e : AssemblyError}
      (load : d.load = .ok document) (profile : document.profile.override overrides = .ok p)
      (failure : failure? p document.service.operations = some e) :
    Ends d overrides (.error (.generation (.assembly e)))
  | generated {document : Document} {p : Profile} {g : Generated} (load : d.load = .ok document)
      (profile : document.profile.override overrides = .ok p)
      (client : ClientGen.generate p document.service = .ok g) :
    Ends d overrides (.ok g)

end ClientGen
