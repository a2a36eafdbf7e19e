import Delimited.Charset.Coding
import Delimited.Session
import Delimited.Stream.TextReader
import Delimited.Stream.TextWriter

set_option autoImplicit false
set_option relaxedAutoImplicit false

/-!
# Pipelines

A pipeline is a valid configuration. It can be run on bytes, where both charsets count, and on text,
where they do not.

## Main definitions

* `Delimited.Pipeline` — a configuration that can be run.
* `Delimited.Pipeline.runText` — a run from a character source to a character sink.
* `Delimited.Pipeline.run` — a run from a byte reader to a byte sink.
* `Delimited.Pipeline.transcode` — a run from text to text in memory.
-/

namespace Delimited

/-- A **pipeline** is a valid configuration. -/
structure Pipeline where
  config : Config
  valid : config.Valid

/-- The **outcome of a run**: its counts or its error, and what it leaves behind. -/
structure Run (σ κ : Type) (p : Processor) where
  result : Except Error Stats
  source : σ
  sink : κ
  processor : p.State
  /-- The events in the order in which they occurred. -/
  log : List Event

namespace Pipeline

/-- The pipeline of a configuration, if that is valid. -/
def ofConfig (config : Config) : Except Error Pipeline :=
  match h : config.check with
  | .ok () => .ok ⟨config, Config.check_eq_ok_iff.1 h⟩
  | .error e => .error e

variable {σ κ : Type} [CharSource σ] [CharSink κ]

/-- How records of the input are read. -/
def grammar (pl : Pipeline) : Grammar :=
  pl.config.input.grammar pl.valid.1 pl.config.keepInputQuotes pl.config.newlines

/-- How records of the output are written. -/
def layout (pl : Pipeline) : Layout :=
  pl.config.output.layout pl.config.quoteMode

/-- A session at the start of a source and a sink. -/
def session (pl : Pipeline) (source : σ) (sink : κ) (p : Processor) : Session σ κ p where
  reader := RowReader.ofSource source pl.grammar pl.config.columnCheck pl.config.skipEmptyRows
  writer := RowWriter.ofSink sink pl.layout
  processor := p.start
  stats := {}
  log := []

/-- The end of a run: on success the sink is closed, and a failure of that counts; after an error it
is only flushed. -/
def close {κ' : Type} {p : Processor} (finish : κ → Except IoFault Unit × κ')
    (abandon : κ → κ') (driven : Except Error Unit × Session σ κ p) : Run σ κ' p :=
  let (result, s) := driven
  match result with
  | .error e =>
    ⟨.error e, s.reader.source, abandon s.writer.flush.2.sink, s.processor, s.log.reverse⟩
  | .ok () =>
    match finish s.writer.sink with
    | (.ok (), sink) =>
      ⟨.ok s.stats, s.reader.source, sink, s.processor,
        (Event.finished s.stats :: s.log).reverse⟩
    | (.error fault, sink) =>
      ⟨.error (.streamIn .finish fault), s.reader.source, sink, s.processor, s.log.reverse⟩

/-- A run from a character source to a character sink, which is flushed at the end. The charsets of
the dialects do not count. -/
def runText (pl : Pipeline) (source : σ) (sink : κ) (p : Processor) : Run σ κ p :=
  close CharSink.flush id ((pl.session source sink p).drive pl.config)

/-- A run from a byte reader to a byte sink. -/
def run {ω : Type} [ByteSink ω] (pl : Pipeline) (input : ByteReader) (output : ω) (p : Processor) :
    Run (TextReader pl.config.input.charset.decoder) ω p :=
  let source : TextReader pl.config.input.charset.decoder := TextReader.ofReader input
  let sink : TextWriter pl.config.output.charset.encoder ω := TextWriter.ofWriter output
  close TextWriter.finish TextWriter.writer ((pl.session source sink p).drive pl.config)

/-- A run from text to text in memory. -/
def transcode (pl : Pipeline) (text : Text) (p : Processor) : Run Text String p :=
  pl.runText text "" p

end Pipeline

end Delimited
