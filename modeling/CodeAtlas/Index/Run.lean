import CodeAtlas.FileTree.Resolve
import CodeAtlas.Index.Summary
import CodeAtlas.Journal
import CodeAtlas.Basic

/-! Indexing: every source file below a path is summarized by a model, and the summary is written to a
    store. -/

namespace CodeAtlas.Index

/-- What an indexing run works with, on states of type `σ`. -/
structure Means (σ : Type) where
  ask : Prompt → σ → Except Failure Answer × σ
  write : Record → σ → Except Failure Bool × σ
  now : σ → Timestamp × σ

/-- An indexer: how it is configured, and the real paths it leaves out. -/
structure Indexer where
  config : Config := {}
  excluded : List Path := []

/-- What became of the files of a run, by the ids of their records. -/
structure Report where
  inserted : List String := []
  updated : List String := []
  skipped : List String := []
deriving DecidableEq, Repr

namespace Report

/-- How many records were written. -/
def total (r : Report) : Nat := r.inserted.length + r.updated.length

end Report

/-- The part of the program that the notes of indexing belong to. -/
def source : String := "repomap.ingest.indexer"

def info (text : String) : Note := ⟨.info, source, text⟩

/-- A failure that only leaves a file out. -/
def skips : Failure → Bool
  | .unreadable _ _ => true
  | .unreadableReported _ => true
  | _ => false

/-- The text of a file, or the failure to read it. -/
def readSource (t : FileTree) (here : Place) (p : Path) : Except Failure String :=
  (t.readText here p).mapError fun fault =>
    if fault.isOrdinary then .unreadable p fault
    else match fault with
      | .file f => .file f
      | .encoding r => .encoding r

namespace Indexer

variable {σ : Type}

/-- The prompt about a file whose text is `text`: only its first characters are sent. -/
def prompt (x : Indexer) (id text : String) : Prompt :=
  ⟨x.config.systemPrompt, userPrompt id (Text.takeChars x.config.maxFileChars text)⟩

/-- The record of a file: its text is sent to the model, and the answer's texts are normalized. The
    clock is read for either time of a record. -/
def summarize (x : Indexer) (m : Means σ) (t : FileTree) (here : Place) (p : Path) (id : String)
    (s : σ) : Except Failure Record × σ :=
  match readSource t here p with
  | .error f => (.error f, s)
  | .ok text =>
    match m.ask (x.prompt id text) s with
    | (.error f, s) => (.error f, s)
    | (.ok answer, s) =>
      match (answer.read id).bind fun summary => summary.texts id x.config.maxKeywords with
      | .error f => (.error f, s)
      | .ok texts =>
        let (created, s) := m.now s
        let (updated, s) := m.now s
        (.ok ⟨id, some texts.content, some texts.description, some texts.keywords, created, updated⟩, s)

variable [Journal σ]

/-- Notes down that a record was written. -/
def noteWritten (isNew : Bool) (r : Record) (s : σ) : σ :=
  Journal.add [info ((if isNew then "Inserted" else "Updated") ++ " into database: " ++
    Text.takeChars 120 (r.description.getD ""))] s

/-- Handles one file: its id goes to the list that fits. -/
def handle (x : Indexer) (m : Means σ) (t : FileTree) (here : Place) (p : Path) (id : String)
    (report : Report) (s : σ) : Except Failure Report × σ :=
  let s := Journal.add [info ("Indexing file: " ++ id)] s
  match x.summarize m t here p id s with
  | (.error f, s) =>
    if skips f then
      (.ok { report with skipped := report.skipped ++ [id] },
        Journal.add [⟨.warning, source, "Skipping " ++ id ++ ": " ++ f.message⟩] s)
    else (.error f, s)
  | (.ok record, s) =>
    match m.write record s with
    | (.error f, s) => (.error f, s)
    | (.ok true, s) =>
      (.ok { report with inserted := report.inserted ++ [id] }, noteWritten true record s)
    | (.ok false, s) =>
      (.ok { report with updated := report.updated ++ [id] }, noteWritten false record s)

/-- Handles files in order, those left out aside, up to the first failure. -/
def handleAll (x : Indexer) (m : Means σ) (t : FileTree) (here : Place) :
    List Path → Report → σ → Except Failure Report × σ
  | [], report, s => (.ok report, s)
  | p :: rest, report, s =>
    match t.realPath here p with
    | .error f => (.error (.file f), s)
    | .ok real =>
      if x.excluded.contains real then handleAll x m t here rest report s
      else
        match handle x m t here p real.text report s with
        | (.error f, s) => (.error f, s)
        | (.ok report, s) => handleAll x m t here rest report s

/-- Indexes everything below a path of the tree. -/
def run (x : Indexer) (m : Means σ) (t : FileTree) (here : Place) (root : String) (s : σ) :
    Except Failure Report × σ :=
  match t.collect here root x.config.includeSuffixes with
  | .error f => (.error (.index (.collecting f)), s)
  | .ok files => x.handleAll m t here files {} s

end Indexer

/-- The real paths of all paths, or the first failure among them. -/
def realPaths (t : FileTree) (here : Place) : List Path → Except Failure (List Path)
  | [] => .ok []
  | p :: rest => match t.realPath here p with
    | .error f => .error (.file f)
    | .ok real => (realPaths t here rest).map (real :: ·)

end CodeAtlas.Index
