import SqlMapper.Mapper.Basic
import SqlMapper.Template.Outline

/-!
# Outlines of mappers

An outline shows every declaration with the place of its element, fragments first.
-/

namespace SqlMapper.Mapper

def outlineHeading (title id : String) (span : Span) : String :=
  Outline.line 1 s!"{title} {id} [{span.start}..{span.stop}]"

def outline (mapper : Mapper) : String :=
  let fragments := mapper.fragments.flatMap fun fragment =>
    outlineHeading "Fragment" fragment.id fragment.span :: fragment.root.outlineAt 2
  let statements := mapper.statements.flatMap fun statement =>
    outlineHeading statement.kind.title statement.id statement.span :: statement.root.outlineAt 2
  Outline.join (s!"Mapper {mapper.nameSpace}" :: fragments ++ statements)

end SqlMapper.Mapper
