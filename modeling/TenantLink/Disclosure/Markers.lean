import TenantLink.Pattern.Basic

/-!
# Marks of a server's internals

Stack traces, places in source files, module paths and database states must not be shown. A
message that holds one of the ten patterns of `markers` is taken to be internal.
-/

namespace TenantLink.Disclosure

open Pattern

def gap : Pattern := repeated (one .space)

def figures : Pattern := repeated (one .digit)

/-- A text given as a string, in any case. -/
def words (text : String) : Pattern := Pattern.word text.toList

def colonNumber : Pattern := inOrder [words ":", figures]

/-- The head of a stack trace: traceback (most recent call last). -/
def tracebackHead : Pattern :=
  inOrder [words "traceback", gap, words "(most", gap, words "recent", gap, words "call", gap,
    words "last)"]

/-- A quoted file and a line: file "app.py", line 3. -/
def quotedFile : Pattern :=
  inOrder [edge, words "file", gap, words "\"", repeated (one (.allBut '"')), words "\",", gap,
    words "line", gap, figures]

/-- A call and its place: at handler (index.js:42:13). -/
def callPlace : Pattern :=
  inOrder [edge, words "at", gap, repeated (one (.wordOr ['$', '.', '<', '>', '[', ']'])),
    many (one .space), words "(", many (one (.allBut ')')), colonNumber,
    alt colonNumber empty, words ")"]

/-- A place in a class: at com.acme.Svc.java:88. -/
def classPlace : Pattern :=
  inOrder [edge, words "at", gap, repeated (one (.wordOr ['$', '.'])), words ".java",
    colonNumber]

def panicPlace : Pattern := inOrder [words "panicked", gap, words "at"]

def backtrace : Pattern := inOrder [words "stack", gap, words "backtrace"]

def threadException : Pattern := inOrder [words "exception", gap, words "in", gap, words "thread"]

/-- A source file and a line: .rs:10. -/
def sourceLine : Pattern :=
  inOrder [words ".",
    oneOf (words "rs")
      [words "py", words "js", words "ts", words "java", words "go", words "rb", words "php",
        words "cs"],
    colonNumber]

def modulePath : Pattern := words "node_modules/"

/-- The name of a database state, as a word of its own. -/
def databaseState : Pattern := inOrder [edge, words "sqlstate", edge]

def markers : List Pattern :=
  [tracebackHead, quotedFile, callPlace, classPlace, panicPlace, backtrace, threadException,
    sourceLine, modulePath, databaseState]

/-- Whether a message holds a mark of the server's internals. -/
def isInternal (message : String) : Bool :=
  markers.any fun p => p.occursIn message.toList

end TenantLink.Disclosure
