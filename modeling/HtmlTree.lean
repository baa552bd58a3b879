import HtmlTree.Catalog
import HtmlTree.Datum
import HtmlTree.Describe
import HtmlTree.Edit
import HtmlTree.Node.Computed
import HtmlTree.Node.Items
import HtmlTree.Proofs.Node.Listing
import HtmlTree.Proofs.Node.Spacing
import HtmlTree.Proofs.Node.Splicing
import HtmlTree.Proofs.Node.Unambiguous
import HtmlTree.Session.Equality
import HtmlTree.Proofs.Node.Preformatted
import HtmlTree.Proofs.Tag.Edits
import HtmlTree.Proofs.Session.History
import HtmlTree.Proofs.Session.Failure
import HtmlTree.Proofs.Node.Asking
import HtmlTree.Proofs.NameSet.Changes
import HtmlTree.Proofs.Node.Escaping
import HtmlTree.Proofs.Node.Place
import HtmlTree.Proofs.Session.Interchange
import HtmlTree.Proofs.Text.Unescaping
import HtmlTree.Proofs.Phrase.Sentence
import HtmlTree.Proofs.Selector.Written
import HtmlTree.Proofs.Selector.Grammar
import HtmlTree.Proofs.Tag.Classes
import HtmlTree.Proofs.Node.Flattening
import HtmlTree.Proofs.Charset.Marks
