import Conveyor.Envelope.Codec
import Conveyor.Proofs.Json.Codec

/-!
# Envelopes and tasks from their texts

The documents of envelopes and tasks say all there is to say about them: every text, every byte of
a payload, every parameter and tag, and every timestamp that there can be.  Only the number of a
task has to be one of 64 bits.

* `Revision.codec_keeps`, `Harvest.codec_keeps`, `TaskInput.codec_keeps` — their parts.
* **`Envelope.codec_keeps`**, **`Task.codec_keeps`** — envelopes and tasks themselves.
-/

namespace Conveyor

open Json

theorem Revision.codec_keeps (r : Revision) : codec.Keeps r := by
  refine .iso (Codec.record_keeps (by decide) ?_) rfl
  exact ⟨Codec.text_keeps _, Codec.text_keeps _, Codec.timestamp_keeps _, Codec.textSet_keeps _,
    trivial⟩

theorem Harvest.codec_keeps (h : Harvest) : codec.Keeps h := by
  refine .iso (Codec.record_keeps (by decide) ?_) rfl
  exact ⟨Codec.text_keeps _, Codec.text_keeps _,
    Codec.option_keeps fun s _ => ⟨Codec.text_keeps s, nofun⟩,
    Codec.option_keeps fun t _ => ⟨Codec.timestamp_keeps t, nofun⟩,
    Codec.option_keeps fun t _ => ⟨Codec.timestamp_keeps t, nofun⟩, trivial⟩

theorem DatasetInput.codec_keeps (i : DatasetInput) : codec.Keeps i := by
  refine .iso (Codec.record_keeps (by decide) ?_) rfl
  exact ⟨Codec.text_keeps _, Codec.text_keeps _, Codec.text_keeps _,
    i.revision.codec_keeps, trivial⟩

theorem TaskInput.codec_keeps (i : TaskInput) : codec.Keeps i := by
  cases i with
  | resources names =>
    have keeps := Codec.list_keeps fun n (_ : n ∈ names) => Codec.text_keeps n
    exact Codec.tagged_keeps rfl keeps.written (congrArg (Except.map _) keeps.read)
  | datasets inputs =>
    have keeps := Codec.list_keeps fun i (_ : i ∈ inputs) => i.codec_keeps
    exact Codec.tagged_keeps rfl keeps.written (congrArg (Except.map _) keeps.read)

/-- The number of a task is one of 64 bits. -/
abbrev TaskId.Fits (id : TaskId) : Prop := Text.minSigned ≤ id.value ∧ id.value ≤ Text.maxSigned

theorem TaskId.codec_keeps {id : TaskId} (h : id.Fits) : codec.Keeps id :=
  (Codec.signed64_keeps h.1 h.2).iso rfl

theorem parameters_keep (parameters : Dict String) : Codec.text.dict.Keeps parameters :=
  Codec.dict_keeps fun e _ => Codec.text_keeps e.2

theorem Envelope.codec_keeps {e : Envelope} (h : e.taskId.Fits) : codec.Keeps e := by
  refine .iso (Codec.record_keeps (by decide) ?_) rfl
  exact ⟨TaskId.codec_keeps h, Codec.text_keeps _, Codec.text_keeps _,
    Codec.option_keeps fun bytes _ => ⟨Codec.list_keeps fun b _ => Codec.byte_keeps b, nofun⟩,
    parameters_keep _,
    Codec.option_keeps fun r _ => ⟨r.codec_keeps, nofun⟩,
    Codec.option_keeps fun v _ => ⟨v.codec_keeps, nofun⟩, trivial⟩

/-- A record with a bit of everything: a leap second before the first year, tags, a byte that is no
text, and a parameter that has to be escaped. -/
def oddEnvelope : Envelope where
  taskId := ⟨-9223372036854775808⟩
  taskName := "übung \"eins\""
  resource := "http://example.org/a\\b"
  payload := some [0, 255]
  parameters := Dict.ofList [("KEY", "line\nline\x01"), ("EMPTY", "")]
  revision := some ⟨"rev", "provider",
    ⟨⟨-5, 12, 31, by decide⟩, 23, 59, 60, 120000, by decide⟩, TextSet.ofTexts ["b", "a"]⟩
  harvest := some ⟨"http://example.org/oai", "edm", none,
    some ⟨⟨12000, 2, 29, by decide⟩, 0, 0, 0, 1, by decide⟩, none⟩

example : Envelope.codec.decode (Envelope.codec.encode oddEnvelope) = .ok oddEnvelope :=
  (Envelope.codec_keeps (by decide)).decode

theorem Task.codec_keeps {t : Task} (h : t.id.Fits) : codec.Keeps t := by
  refine .iso (Codec.record_keeps (by decide) ?_) rfl
  exact ⟨TaskId.codec_keeps h, Codec.text_keeps _, Codec.text_keeps _,
    parameters_keep _, t.input.codec_keeps,
    Codec.option_keeps fun r _ => ⟨r.codec_keeps, nofun⟩,
    Codec.option_keeps fun v _ => ⟨v.codec_keeps, nofun⟩, Codec.bool_keeps _, trivial⟩

end Conveyor
