import Selene.AgentEnvelope
import Selene.PrototypeRestore

/-!
# Frames of the agent protocol

A frame is the JSON text of an envelope on a line of its own.
-/

namespace Selene.Agent

open Js Prototype

/-- The properties that the kind of an envelope adds, in order. -/
def bodyRecord : EnvelopeBody → Record
  | .hello capabilities implementation =>
      [(js "kind", .string (js "hello")),
        (js "capabilities", .array (capabilities.map JsValue.string))] ++
      Record.optionalEntry (js "implementation")
        (implementation.map JsValue.string)
  | .request requestId operation input =>
      [(js "kind", .string (js "request")),
        (js "requestId", .string requestId),
        (js "operation", .string operation),
        (js "input", .object input)]
  | .event requestId event output =>
      [(js "kind", .string (js "event")),
        (js "requestId", .string requestId),
        (js "event", .string event)] ++
      Record.optionalEntry (js "output") (output.map JsValue.object)
  | .cancel requestId =>
      [(js "kind", .string (js "cancel")),
        (js "requestId", .string requestId)]
  | .error requestId code message retryable =>
      (js "kind", .string (js "error")) ::
        (Record.optionalEntry (js "requestId")
          (requestId.map JsValue.string) ++
        ([(js "code", .string code), (js "message", .string message)] ++
        Record.optionalEntry (js "retryable") (retryable.map JsValue.bool)))

/-- The properties of an envelope, in order. -/
def envelopeRecord (envelope : AgentEnvelope) : Record :=
  [(js "protocolVersion", .string (js "1.0")),
    (js "messageId", .string envelope.base.messageId),
    (js "sentAt", .string envelope.base.sentAt)] ++ bodyRecord envelope.body

/-- The JSON text of an envelope. -/
def envelopeLine (format : NumberFormat) (envelope : AgentEnvelope) : JsString :=
  0x7B :: stringifyEntries format true (envelopeRecord envelope)

/-- `line` with its terminator. -/
def terminated (line : JsString) : JsString :=
  line ++ [0x0A]

def encodeJsonlEnvelope (format : NumberFormat) (envelope : Candidate) :
    Except AgentProtocolError JsString := do
  let valid ← validateEnvelope format envelope
  let line := envelopeLine format valid
  check (utf8ByteLengthAtMost line maxJsonlLineBytes ≤ maxJsonlLineBytes)
    (hostError .lineTooLarge (js "JSONL frame exceeds 1048576 bytes"))
  pure (terminated line)

theorem utf8Length_terminated (line : JsString) :
    utf8Length (terminated line) = utf8Length line + 1 :=
  utf8Length_concat (by decide)

theorem encodeJsonlEnvelope_eq_ok
    {format : NumberFormat}
    {envelope : AgentEnvelope}
    {frame : JsString} :
    encodeJsonlEnvelope format (.validated envelope) = .ok frame ↔
      utf8Length (envelopeLine format envelope) ≤ maxJsonlLineBytes ∧
        frame = terminated (envelopeLine format envelope) := by
  simp only [encodeJsonlEnvelope, validateEnvelope, ok_bind,
    utf8ByteLengthAtMost_le_iff]
  rw [check_bind_eq_ok]
  exact and_congr_right fun _ => ⟨fun same => (Except.ok.inj same).symm,
    fun same => same ▸ rfl⟩

end Selene.Agent
