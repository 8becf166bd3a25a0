import SysadminAssistant.Files.DuplicatePlan
import SysadminAssistant.Python.Float

namespace SysadminAssistant.Files

open Python

/-! `sysadmin/files/actions.py`: planning to file what is misplaced, and to clear old downloads. -/

/-- A configured folder, with `~` expanded and its names innermost first. -/
inductive Folder where
  | absolute (place : Path)
  | relative (names : List Text)

def Folder.under (root : Path) : Folder → Path
  | .absolute place => place
  | .relative names => names ++ root

/-- What the planners read beside the tree: `str.lower`, the two searches in a name, the page count
of a file, and the time so many days ago, where there is one. -/
structure Inspection extends Reading where
  lower : Text → Text
  documentMarked : Text → Bool
  bookMarked : Text → Bool
  pageCount : Path → Option Nat
  /-- `f"{value:.1f}"`. -/
  tenths : ℚ → Text
  daysAgo : Int → Option ℚ

structure PlanningConfig extends FileOrganiserConfig where
  downloadsStaleDays : Int := 30
  /-- A folder that is the empty text is none. -/
  categoryFolders : Dict Text (Option Folder)
  codeExtensions : List Text :=
    [".py", ".js", ".ts", ".tsx", ".jsx", ".go", ".rs", ".c", ".cpp", ".h", ".hpp", ".java",
    ".rb", ".sh", ".php", ".lua", ".sql"].map text
  downloadsDir : Folder := .relative (path ["Downloads"])
  archiveDir : Folder := .relative (path ["Archives", "Downloads"])
  pdfBookMinPages : Int := 50
  pdfBookMinMb : PyFloat := .finite 5

def defaultCategoryFolders : Dict Text (Option Folder) :=
  Dict.ofEntries ([("images", "Pictures"), ("videos", "Videos"), ("documents", "Documents"),
    ("audio", "Music"), ("books", "Books"), ("archives", "Archives")].map fun entry =>
      (text entry.1, some (.relative (path [entry.2]))))

structure PlannedOperation extends FileOperation where
  category : Option Text
  sizeBytes : Nat

structure FileFlag where
  path : Path
  kind : Text
  reason : Text
  sizeBytes : Nat

structure FileActionResponse where
  operation : Text
  dryRun : Bool
  scanRoot : Path
  operations : List PlannedOperation
  flagged : List FileFlag
  plannedCount : Nat
  doneCount : Nat
  skippedCount : Nat
  failedCount : Nat
  totalBytes : Nat
  truncated : Bool
  message : Text

inductive PlanError where
  | unknownStrategy
  | unknownMode
  | negativeDays
  | downloadsOutside
  | archiveOutside
  | archiveInDownloads
  /-- A `RuntimeError`: the links of a path do not come to an end. -/
  | loops
  | overflow
deriving DecidableEq

/-- What a loop over the files has planned. -/
structure Manifest where
  operations : List PlannedOperation
  flagged : List FileFlag
  truncated : Bool

/-- `_finalise`, of a dry run. -/
def finalise (operation : Text) (root : Path) (message : Text) (manifest : Manifest) :
    FileActionResponse :=
  let counted := fun status => manifest.operations.countP fun operation => operation.status = status
  { operation
    dryRun := true
    scanRoot := root
    operations := manifest.operations
    flagged := manifest.flagged
    plannedCount := counted .planned
    doneCount := counted .done
    skippedCount := counted .skipped
    failedCount := counted .failed
    totalBytes := ((manifest.operations.filter fun operation =>
      operation.status = .planned || operation.status = .done).map PlannedOperation.sizeBytes).sum
    truncated := manifest.truncated
    message }

/-! ## Categories -/

structure FileCategory where
  name : Text
  extensions : List Text
  expectedDirs : List Text

/-- `FILE_CATEGORIES`. -/
def fileCategories : List FileCategory :=
  [("images", [".jpg", ".jpeg", ".png", ".gif", ".webp", ".bmp", ".tiff", ".svg", ".ico",
    ".heic", ".raw"],
      ["Pictures", "Images", "photos", "screenshots"]),
    ("videos", [".mp4", ".mkv", ".mov", ".avi", ".webm", ".flv", ".wmv", ".m4v"],
    ["Videos", "Movies"]), ("documents", [".pdf", ".docx", ".doc", ".odt", ".xlsx", ".xls", ".pptx",
    ".ppt", ".txt", ".rtf"],
      ["Documents", "Docs"]),
    ("audio", [".mp3", ".flac", ".wav", ".ogg", ".m4a", ".aac", ".wma"], ["Music", "Audio"]),
    ("books", [".epub", ".mobi", ".azw", ".azw3", ".cbz", ".cbr", ".fb2"],
      ["Books", "Library", "ebooks", "Calibre Library"]),
    ("archives", [".zip", ".7z", ".rar", ".tar", ".gz", ".tgz", ".bz2", ".xz", ".zst"],
      ["Archives", "Backups"])].map fun entry => ⟨text entry.1, entry.2.1.map text, entry.2.2.map text⟩

def suffixOf (inspection : Inspection) (path : Path) : Text :=
  inspection.lower (stemAndSuffix (path.headD [])).2

def categoryFor (inspection : Inspection) (path : Path) : Option Text :=
  (fileCategories.find? fun category => suffixOf inspection path ∈ category.extensions).map
    FileCategory.name

def megabytes (inspection : Inspection) (tree : Tree) (path : Path) : ℚ :=
  if !inspection.stats path then 0
  else match tree.get? path with
    | some (.file content _) => content.length / (1024 * 1024)
    | _ => 0

def conservativeDefault : Text × Text :=
  (text "documents", text "no book evidence — conservative default")

/-- `classify_pdf`: a book only on positive evidence. -/
def classifyPdf (inspection : Inspection) (config : PlanningConfig) (tree : Tree) (path : Path) :
    Text × Text :=
  let name := path.headD []
  if inspection.documentMarked name then (text "documents", text "filename matches a document marker")
  else if inspection.bookMarked name then (text "books", text "filename matches a book marker")
  else match inspection.pageCount path with
    | none => conservativeDefault
    | some pages =>
      let size := megabytes inspection tree path
      if (pages : Int) ≥ config.pdfBookMinPages then
        (text "books", text "page count " ++ intText pages ++ text " >= " ++
          intText config.pdfBookMinPages)
      else if reaches size config.pdfBookMinMb then
        (text "documents", text "only " ++ intText pages ++ text " pages despite " ++
          inspection.tenths size ++ text "MB — treated as a document")
      else conservativeDefault

def expectedDirs (category : Text) : List Text :=
  ((fileCategories.find? fun entry => entry.name = category).map FileCategory.expectedDirs).getD []

/-- `_in_expected_place`: under the configured destination, or under a folder of one of the usual
names. -/
def inExpectedPlace (root resolved : Path) (category : Text) (destinationDir : Path) : Bool :=
  destinationDir.isSuffixOf resolved.tail ||
    (isWithin root resolved &&
      ((resolved.take (resolved.length - root.length)).tail.any fun part =>
        part ∈ expectedDirs category))

def destinationDir (root : Path) (category : Text) (config : PlanningConfig) : Option Path :=
  ((config.categoryFolders.get? category).bind id).map (Folder.under root)

/-! ## Filing -/

section

variable (machine : Machine) (inspection : Inspection) (config : PlanningConfig) (tree : Tree)
  (root : Path)

def Manifest.empty : Manifest := ⟨[], [], false⟩

def Manifest.plan (manifest : Manifest) (operation : PlannedOperation) : Manifest :=
  { manifest with operations := manifest.operations ++ [operation] }

def alreadyExists : Text := text "destination already exists — not overwriting"

/-- A move, or the note that something is in its way. -/
def moveTo (path destination : Path) (category reason : Option Text) : PlannedOperation :=
  let blocked := existsAt machine.steps tree destination || isSymlink machine.steps tree destination
  { action := text "move"
    source := path
    destination := some destination
    category
    sizeBytes := sizeOf inspection.toReading tree path
    status := if blocked then .skipped else .planned
    reason := if blocked then some alreadyExists else reason
    keepPath := none }

def folderOutside (path : Path) (category : Text) : PlannedOperation where
  action := text "move"
  source := path
  destination := none
  category := some category
  sizeBytes := sizeOf inspection.toReading tree path
  status := .skipped
  reason :=
    some (text "configured folder for '" ++ category ++ text "' resolves outside the scan root")
  keepPath := none

def looseCode (path : Path) : FileFlag where
  path
  kind := text "loose_code"
  reason := text "code file in the scan root — review manually, never auto-moved"
  sizeBytes := sizeOf inspection.toReading tree path

/-- The category that a file is filed under, and why. -/
def categoryAndNote (path : Path) : Option (Text × Option Text) :=
  (categoryFor inspection path).map fun category =>
    if suffixOf inspection path = text ".pdf" then
      let (category, note) := classifyPdf inspection config tree path
      (category, some note)
    else (category, none)

/-- One turn of the loop of `plan_organise`. -/
def organiseFile (wanted : Option (List Text)) (manifest : Manifest) (path : Path) :
    Except PlanError Manifest :=
  if path.tail = root ∧ suffixOf inspection path ∈ config.codeExtensions.map inspection.lower then
    .ok { manifest with flagged := manifest.flagged ++ [looseCode inspection tree path] }
  else match categoryAndNote inspection config tree path with
    | none => .ok manifest
    | some (category, note) =>
      if !wanted.all fun wanted => wanted.contains category then .ok manifest
      else match destinationDir root category config with
        | none => .ok manifest
        | some folder => match resolveWithin machine tree root folder with
            | .loops => .error .loops
            | .escapes => .ok (manifest.plan (folderOutside inspection tree path category))
            | .within folder => match realPath machine.steps tree path with
                | none => .error .loops
                | some resolved =>
                  if inExpectedPlace root resolved category folder then .ok manifest
                  else .ok (manifest.plan
                    (moveTo machine inspection tree path (path.headD [] :: folder)
                      (some category) note))

/-- The loop over the files, which stops at the cap. -/
def planEach (turn : Manifest → Path → Except PlanError Manifest) (maxOperations : Int) :
    List Path → Manifest → Except PlanError Manifest
  | [], manifest => .ok manifest
  | path :: rest, manifest =>
    if maxOperations ≤ manifest.operations.length then .ok { manifest with truncated := true }
    else match turn manifest path with
      | .error raised => .error raised
      | .ok next => planEach turn maxOperations rest next

/-- `categories or None`, as a set. -/
def wantedOf (categories : Option (List Text)) : Option (List Text) :=
  categories.filter fun names => !names.isEmpty

end

def planOrganise (machine : Machine) (inspection : Inspection) (config : PlanningConfig)
    (excludedRoots : List Path) (categories : Option (List Text)) (tree : Tree) :
    Except PlanError FileActionResponse :=
  match realPath machine.steps tree config.scanRoot with
  | none => .error .loops
  | some root =>
    if !isDir machine.steps tree root then
      .ok (finalise (text "organise") root (text "scan root " ++ pathText root ++
        text " does not exist") .empty)
    else (planEach (organiseFile machine inspection config tree root (wantedOf categories))
      config.actions.maxOperations
        (walkFiles machine inspection.toReading tree config.skipDirs excludedRoots
          (tree.entries.length + 1) root)
        .empty).map (finalise (text "organise") root [])

/-! ## Downloads -/

inductive DownloadMode where
  | archive | trash
deriving DecidableEq

def DownloadMode.name : DownloadMode → Text
  | .archive => text "archive"
  | .trash => text "trash"

/-- The path of the first below the second, put below the third. -/
def rebased (path below onto : Path) : Path := path.take (path.length - below.length) ++ onto

/-- One turn of the loop of `plan_downloads_cleanup`. -/
def clearDownload (machine : Machine) (inspection : Inspection) (tree : Tree) (downloads : Path)
    (archiveDir : Option Path) (cutoff : ℚ) (manifest : Manifest) (path : Path) :
    Except PlanError Manifest :=
  match if inspection.stats path then tree.get? path else none with
  | some (.file _ modified) =>
    if modified > cutoff then .ok manifest
    else
      let age :=
        some (intText (roundToDouble (machine.now - modified) / 86400).floor ++ text " days old")
      match archiveDir with
      | none => .ok (manifest.plan {
          action := text "trash"
          source := path
          destination := none
          category := none
          sizeBytes := sizeOf inspection.toReading tree path
          status := .planned
          reason := age
          keepPath := none })
      | some archive => .ok (manifest.plan
          (moveTo machine inspection tree path (rebased path downloads archive) none age))
  | _ => .ok manifest

/-- The two folders of a downloads plan, inside the scan root; an archive in the downloads is
refused. -/
def downloadFolders (machine : Machine) (config : PlanningConfig) (tree : Tree) (root : Path)
    (mode : DownloadMode) : Except PlanError (Path × Option Path) :=
  match resolveWithin machine tree root (config.downloadsDir.under root) with
  | .loops => .error .loops
  | .escapes => .error .downloadsOutside
  | .within downloads => match mode with
      | .trash => .ok (downloads, none)
      | .archive => match resolveWithin machine tree root (config.archiveDir.under root) with
          | .loops => .error .loops
          | .escapes => .error .archiveOutside
          | .within archive =>
            if isWithin downloads archive then .error .archiveInDownloads
            else .ok (downloads, some archive)

def planDownloadsCleanup (machine : Machine) (inspection : Inspection) (config : PlanningConfig)
    (excludedRoots : List Path) (mode : Text) (olderThanDays : Option Int) (tree : Tree) :
    Except PlanError FileActionResponse :=
  let days := olderThanDays.getD config.downloadsStaleDays
  match [DownloadMode.archive, .trash].find? fun known => known.name = mode with
  | none => .error .unknownMode
  | some mode =>
    if days < 0 then .error .negativeDays
    else match realPath machine.steps tree config.scanRoot with
      | none => .error .loops
      | some root => match downloadFolders machine config tree root mode with
          | .error raised => .error raised
          | .ok (downloads, archive) =>
            if !isDir machine.steps tree downloads then
              .ok (finalise (text "clean_downloads") root
                (text "downloads directory " ++ pathText downloads ++ text " does not exist") .empty)
            else match inspection.daysAgo days with
              | none => .error .overflow
              | some cutoff =>
                (planEach (clearDownload machine inspection tree downloads archive cutoff)
                config.actions.maxOperations
                  (walkFiles machine inspection.toReading tree config.skipDirs excludedRoots
                  (tree.entries.length + 1) downloads)
                    .empty).map (finalise (text "clean_downloads") root
                  (text "downloads not modified in " ++ intText days ++ text " day(s)"))

end SysadminAssistant.Files
