import BlockSync.Log.Record

namespace BlockSync.Journal

/-!
# Places of records

A detailed log shows with every record the place that made it: a unit, a line and a function.
Readers of logs search for these places, so each decision keeps its own.
-/

/-- A marker that begins a block above another one that does. -/
def orphanBegin : LogSite := ⟨"blocks.py", 144, "find_block_in_lines"⟩
/-- A marker that ends a block which was never begun. -/
def orphanEnd : LogSite := ⟨"blocks.py", 148, "find_block_in_lines"⟩
/-- A block was found. -/
def blockFound : LogSite := ⟨"blocks.py", 156, "find_block_in_lines"⟩
/-- An anchor matches no line. -/
def anchorMissing : LogSite := ⟨"anchors.py", 143, "locate"⟩
/-- An anchor matches several lines. -/
def anchorAmbiguous : LogSite := ⟨"anchors.py", 146, "locate"⟩
/-- An anchor matches one line. -/
def anchorLocated : LogSite := ⟨"anchors.py", 158, "locate"⟩
/-- A block goes into a text. -/
def blockInserted : LogSite := ⟨"merger.py", 112, "add_or_update"⟩
/-- A block stays as it is. -/
def blockCurrent : LogSite := ⟨"merger.py", 120, "add_or_update"⟩
/-- A block gives way to a new one. -/
def blockReplaced : LogSite := ⟨"merger.py", 123, "add_or_update"⟩
/-- There is no block to take out. -/
def blockAbsent : LogSite := ⟨"merger.py", 155, "remove"⟩
/-- A block is taken out. -/
def blockRemoved : LogSite := ⟨"merger.py", 158, "remove"⟩
/-- The values of a fragment were looked up. -/
def valuesExtracted : LogSite := ⟨"base.py", 112, "extract_values"⟩
/-- Required values of a fragment are not set. -/
def valuesMissing : LogSite := ⟨"base.py", 172, "sync"⟩
/-- A project has no source. -/
def noSource : LogSite := ⟨"io.py", 151, "load_config"⟩
/-- A source holds no configuration. -/
def noSection : LogSite := ⟨"io.py", 160, "load_config"⟩
/-- A source is added. -/
def sourceMerged : LogSite := ⟨"io.py", 162, "load_config"⟩
/-- A configuration is complete. -/
def configLoaded : LogSite := ⟨"io.py", 169, "load_config"⟩
/-- Keys of a source mean nothing. -/
def keysIgnored : LogSite := ⟨"model.py", 207, "merge_dict"⟩
/-- The files of an entry were looked up. -/
def targetsResolved : LogSite := ⟨"file_resolver.py", 85, "resolve_targets"⟩
/-- An entry has no files. -/
def entryUnmatched : LogSite := ⟨"runtime.py", 83, "build_plan"⟩
/-- A file cannot be read. -/
def fileUnreadable : LogSite := ⟨"runtime.py", 123, "process_file"⟩
/-- A job failed. -/
def jobFailed : LogSite := ⟨"runtime.py", 136, "process_file"⟩
/-- A job succeeded. -/
def jobDone : LogSite := ⟨"runtime.py", 146, "process_file"⟩
/-- A diff was made. -/
def diffMade : LogSite := ⟨"diff.py", 54, "unified_diff"⟩
/-- A file cannot be written. -/
def fileUnwritable : LogSite := ⟨"runtime.py", 163, "process_file"⟩
/-- A file was written. -/
def fileWritten : LogSite := ⟨"file.py", 55, "write_if_changed"⟩

end BlockSync.Journal
