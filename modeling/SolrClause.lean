import SolrClause.Main
import SolrClause.Proofs.Clause.Canonical
import SolrClause.Proofs.Clause.Insertion
import SolrClause.Proofs.Clause.Reading
import SolrClause.Proofs.CommandLine.Compile
import SolrClause.Proofs.CriteriaFile.Blanks
import SolrClause.Proofs.Form.Integer
import SolrClause.Proofs.Form.Reload
import SolrClause.Proofs.Form.Timestamp
import SolrClause.Proofs.Form.Variants
import SolrClause.Proofs.Fragment.Marks
import SolrClause.Proofs.Literal.Concatenation
import SolrClause.Proofs.Report
import SolrClause.Proofs.Report.Lines
import SolrClause.Text.Letters
import SolrClause.Proofs.Run.Settings
