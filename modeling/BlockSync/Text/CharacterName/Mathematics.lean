import BlockSync.Text.CharacterName.Block

namespace BlockSync.Text.CharacterName

/-!
# Names: Mathematics

Characters from 1D400 to 1D7FF:
mathematical alphabets.
-/

/-- The names from 1D400 to 1D7FF. -/
def mathematics : List Block := [
  ⟨0x1D400, "MATHEMATICAL BOLD CAPITAL ", ["A;B;C;D;E;F;G;H;I;J;K;L;M;N;O;P;Q;R;S;T;U;V;W;X;Y;Z"]⟩,
  ⟨0x1D41A, "MATHEMATICAL BOLD SMALL ", ["A;B;C;D;E;F;G;H;I;J;K;L;M;N;O;P;Q;R;S;T;U;V;W;X;Y;Z"]⟩,
  ⟨0x1D434, "MATHEMATICAL ITALIC CAPITAL ", [
    "A;B;C;D;E;F;G;H;I;J;K;L;M;N;O;P;Q;R;S;T;U;V;W;X;Y;Z"]⟩,
  ⟨0x1D44E, "MATHEMATICAL ITALIC SMALL ", ["A;B;C;D;E;F;G"]⟩,
  ⟨0x1D456, "MATHEMATICAL ITALIC SMALL ", ["I;J;K;L;M;N;O;P;Q;R;S;T;U;V;W;X;Y;Z"]⟩,
  ⟨0x1D468, "MATHEMATICAL BOLD ITALIC CAPITAL ", [
    "A;B;C;D;E;F;G;H;I;J;K;L;M;N;O;P;Q;R;S;T;U;V;W;X;Y;Z"]⟩,
  ⟨0x1D482, "MATHEMATICAL BOLD ITALIC SMALL ", [
    "A;B;C;D;E;F;G;H;I;J;K;L;M;N;O;P;Q;R;S;T;U;V;W;X;Y;Z"]⟩,
  ⟨0x1D49C, "", ["MATHEMATICAL SCRIPT CAPITAL A"]⟩,
  ⟨0x1D49E, "MATHEMATICAL SCRIPT CAPITAL ", ["C;D"]⟩,
  ⟨0x1D4A2, "", ["MATHEMATICAL SCRIPT CAPITAL G"]⟩,
  ⟨0x1D4A5, "MATHEMATICAL SCRIPT CAPITAL ", ["J;K"]⟩,
  ⟨0x1D4A9, "MATHEMATICAL SCRIPT CAPITAL ", ["N;O;P;Q"]⟩,
  ⟨0x1D4AE, "MATHEMATICAL SCRIPT CAPITAL ", ["S;T;U;V;W;X;Y;Z"]⟩,
  ⟨0x1D4B6, "MATHEMATICAL SCRIPT SMALL ", ["A;B;C;D"]⟩,
  ⟨0x1D4BB, "", ["MATHEMATICAL SCRIPT SMALL F"]⟩,
  ⟨0x1D4BD, "MATHEMATICAL SCRIPT SMALL ", ["H;I;J;K;L;M;N"]⟩,
  ⟨0x1D4C5, "MATHEMATICAL SCRIPT SMALL ", ["P;Q;R;S;T;U;V;W;X;Y;Z"]⟩,
  ⟨0x1D4D0, "MATHEMATICAL BOLD SCRIPT CAPITAL ", [
    "A;B;C;D;E;F;G;H;I;J;K;L;M;N;O;P;Q;R;S;T;U;V;W;X;Y;Z"]⟩,
  ⟨0x1D4EA, "MATHEMATICAL BOLD SCRIPT SMALL ", [
    "A;B;C;D;E;F;G;H;I;J;K;L;M;N;O;P;Q;R;S;T;U;V;W;X;Y;Z"]⟩,
  ⟨0x1D504, "MATHEMATICAL FRAKTUR CAPITAL ", ["A;B"]⟩,
  ⟨0x1D507, "MATHEMATICAL FRAKTUR CAPITAL ", ["D;E;F;G"]⟩,
  ⟨0x1D50D, "MATHEMATICAL FRAKTUR CAPITAL ", ["J;K;L;M;N;O;P;Q"]⟩,
  ⟨0x1D516, "MATHEMATICAL FRAKTUR CAPITAL ", ["S;T;U;V;W;X;Y"]⟩,
  ⟨0x1D51E, "MATHEMATICAL FRAKTUR SMALL ", ["A;B;C;D;E;F;G;H;I;J;K;L;M;N;O;P;Q;R;S;T;U;V;W;X;Y;Z"]⟩,
  ⟨0x1D538, "MATHEMATICAL DOUBLE-STRUCK CAPITAL ", ["A;B"]⟩,
  ⟨0x1D53B, "MATHEMATICAL DOUBLE-STRUCK CAPITAL ", ["D;E;F;G"]⟩,
  ⟨0x1D540, "MATHEMATICAL DOUBLE-STRUCK CAPITAL ", ["I;J;K;L;M"]⟩,
  ⟨0x1D546, "", ["MATHEMATICAL DOUBLE-STRUCK CAPITAL O"]⟩,
  ⟨0x1D54A, "MATHEMATICAL DOUBLE-STRUCK CAPITAL ", ["S;T;U;V;W;X;Y"]⟩,
  ⟨0x1D552, "MATHEMATICAL DOUBLE-STRUCK SMALL ", [
    "A;B;C;D;E;F;G;H;I;J;K;L;M;N;O;P;Q;R;S;T;U;V;W;X;Y;Z"]⟩,
  ⟨0x1D56C, "MATHEMATICAL BOLD FRAKTUR CAPITAL ", [
    "A;B;C;D;E;F;G;H;I;J;K;L;M;N;O;P;Q;R;S;T;U;V;W;X;Y;Z"]⟩,
  ⟨0x1D586, "MATHEMATICAL BOLD FRAKTUR SMALL ", [
    "A;B;C;D;E;F;G;H;I;J;K;L;M;N;O;P;Q;R;S;T;U;V;W;X;Y;Z"]⟩,
  ⟨0x1D5A0, "MATHEMATICAL SANS-SERIF CAPITAL ", [
    "A;B;C;D;E;F;G;H;I;J;K;L;M;N;O;P;Q;R;S;T;U;V;W;X;Y;Z"]⟩,
  ⟨0x1D5BA, "MATHEMATICAL SANS-SERIF SMALL ", [
    "A;B;C;D;E;F;G;H;I;J;K;L;M;N;O;P;Q;R;S;T;U;V;W;X;Y;Z"]⟩,
  ⟨0x1D5D4, "MATHEMATICAL SANS-SERIF BOLD CAPITAL ", [
    "A;B;C;D;E;F;G;H;I;J;K;L;M;N;O;P;Q;R;S;T;U;V;W;X;Y;Z"]⟩,
  ⟨0x1D5EE, "MATHEMATICAL SANS-SERIF BOLD SMALL ", [
    "A;B;C;D;E;F;G;H;I;J;K;L;M;N;O;P;Q;R;S;T;U;V;W;X;Y;Z"]⟩,
  ⟨0x1D608, "MATHEMATICAL SANS-SERIF ITALIC CAPITAL ", [
    "A;B;C;D;E;F;G;H;I;J;K;L;M;N;O;P;Q;R;S;T;U;V;W;X;Y;Z"]⟩,
  ⟨0x1D622, "MATHEMATICAL SANS-SERIF ITALIC SMALL ", [
    "A;B;C;D;E;F;G;H;I;J;K;L;M;N;O;P;Q;R;S;T;U;V;W;X;Y;Z"]⟩,
  ⟨0x1D63C, "MATHEMATICAL SANS-SERIF BOLD ITALIC CAPITAL ", [
    "A;B;C;D;E;F;G;H;I;J;K;L;M;N;O;P;Q;R;S;T;U;V;W;X;Y;Z"]⟩,
  ⟨0x1D656, "MATHEMATICAL SANS-SERIF BOLD ITALIC SMALL ", [
    "A;B;C;D;E;F;G;H;I;J;K;L;M;N;O;P;Q;R;S;T;U;V;W;X;Y;Z"]⟩,
  ⟨0x1D670, "MATHEMATICAL MONOSPACE CAPITAL ", [
    "A;B;C;D;E;F;G;H;I;J;K;L;M;N;O;P;Q;R;S;T;U;V;W;X;Y;Z"]⟩,
  ⟨0x1D68A, "MATHEMATICAL MONOSPACE SMALL ", [
    "A;B;C;D;E;F;G;H;I;J;K;L;M;N;O;P;Q;R;S;T;U;V;W;X;Y;Z"]⟩,
  ⟨0x1D6A4, "MATHEMATICAL ITALIC SMALL DOTLESS ", ["I;J"]⟩,
  ⟨0x1D6A8, "MATHEMATICAL BOLD CAPITAL ", [
    "ALPHA;BETA;GAMMA;DELTA;EPSILON;ZETA;ETA;THETA;IOTA;KAPPA;LAMDA;MU;NU;XI;OMICRON;PI;RHO",
    "THETA SYMBOL;SIGMA;TAU;UPSILON;PHI;CHI;PSI;OMEGA"]⟩,
  ⟨0x1D6C1, "", ["MATHEMATICAL BOLD NABLA"]⟩,
  ⟨0x1D6C2, "MATHEMATICAL BOLD SMALL ", [
    "ALPHA;BETA;GAMMA;DELTA;EPSILON;ZETA;ETA;THETA;IOTA;KAPPA;LAMDA;MU;NU;XI;OMICRON;PI;RHO",
    "FINAL SIGMA;SIGMA;TAU;UPSILON;PHI;CHI;PSI;OMEGA"]⟩,
  ⟨0x1D6DB, "MATHEMATICAL BOLD ", [
    "PARTIAL DIFFERENTIAL;EPSILON SYMBOL;THETA SYMBOL;KAPPA SYMBOL;PHI SYMBOL;RHO SYMBOL",
    "PI SYMBOL"]⟩,
  ⟨0x1D6E2, "MATHEMATICAL ITALIC CAPITAL ", [
    "ALPHA;BETA;GAMMA;DELTA;EPSILON;ZETA;ETA;THETA;IOTA;KAPPA;LAMDA;MU;NU;XI;OMICRON;PI;RHO",
    "THETA SYMBOL;SIGMA;TAU;UPSILON;PHI;CHI;PSI;OMEGA"]⟩,
  ⟨0x1D6FB, "", ["MATHEMATICAL ITALIC NABLA"]⟩,
  ⟨0x1D6FC, "MATHEMATICAL ITALIC SMALL ", [
    "ALPHA;BETA;GAMMA;DELTA;EPSILON;ZETA;ETA;THETA;IOTA;KAPPA;LAMDA;MU;NU;XI;OMICRON;PI;RHO",
    "FINAL SIGMA;SIGMA;TAU;UPSILON;PHI;CHI;PSI;OMEGA"]⟩,
  ⟨0x1D715, "MATHEMATICAL ITALIC ", [
    "PARTIAL DIFFERENTIAL;EPSILON SYMBOL;THETA SYMBOL;KAPPA SYMBOL;PHI SYMBOL;RHO SYMBOL",
    "PI SYMBOL"]⟩,
  ⟨0x1D71C, "MATHEMATICAL BOLD ITALIC CAPITAL ", [
    "ALPHA;BETA;GAMMA;DELTA;EPSILON;ZETA;ETA;THETA;IOTA;KAPPA;LAMDA;MU;NU;XI;OMICRON;PI;RHO",
    "THETA SYMBOL;SIGMA;TAU;UPSILON;PHI;CHI;PSI;OMEGA"]⟩,
  ⟨0x1D735, "", ["MATHEMATICAL BOLD ITALIC NABLA"]⟩,
  ⟨0x1D736, "MATHEMATICAL BOLD ITALIC SMALL ", [
    "ALPHA;BETA;GAMMA;DELTA;EPSILON;ZETA;ETA;THETA;IOTA;KAPPA;LAMDA;MU;NU;XI;OMICRON;PI;RHO",
    "FINAL SIGMA;SIGMA;TAU;UPSILON;PHI;CHI;PSI;OMEGA"]⟩,
  ⟨0x1D74F, "MATHEMATICAL BOLD ITALIC ", [
    "PARTIAL DIFFERENTIAL;EPSILON SYMBOL;THETA SYMBOL;KAPPA SYMBOL;PHI SYMBOL;RHO SYMBOL",
    "PI SYMBOL"]⟩,
  ⟨0x1D756, "MATHEMATICAL SANS-SERIF BOLD CAPITAL ", [
    "ALPHA;BETA;GAMMA;DELTA;EPSILON;ZETA;ETA;THETA;IOTA;KAPPA;LAMDA;MU;NU;XI;OMICRON;PI;RHO",
    "THETA SYMBOL;SIGMA;TAU;UPSILON;PHI;CHI;PSI;OMEGA"]⟩,
  ⟨0x1D76F, "", ["MATHEMATICAL SANS-SERIF BOLD NABLA"]⟩,
  ⟨0x1D770, "MATHEMATICAL SANS-SERIF BOLD SMALL ", [
    "ALPHA;BETA;GAMMA;DELTA;EPSILON;ZETA;ETA;THETA;IOTA;KAPPA;LAMDA;MU;NU;XI;OMICRON;PI;RHO",
    "FINAL SIGMA;SIGMA;TAU;UPSILON;PHI;CHI;PSI;OMEGA"]⟩,
  ⟨0x1D789, "MATHEMATICAL SANS-SERIF BOLD ", [
    "PARTIAL DIFFERENTIAL;EPSILON SYMBOL;THETA SYMBOL;KAPPA SYMBOL;PHI SYMBOL;RHO SYMBOL",
    "PI SYMBOL"]⟩,
  ⟨0x1D790, "MATHEMATICAL SANS-SERIF BOLD ITALIC CAPITAL ", [
    "ALPHA;BETA;GAMMA;DELTA;EPSILON;ZETA;ETA;THETA;IOTA;KAPPA;LAMDA;MU;NU;XI;OMICRON;PI;RHO",
    "THETA SYMBOL;SIGMA;TAU;UPSILON;PHI;CHI;PSI;OMEGA"]⟩,
  ⟨0x1D7A9, "", ["MATHEMATICAL SANS-SERIF BOLD ITALIC NABLA"]⟩,
  ⟨0x1D7AA, "MATHEMATICAL SANS-SERIF BOLD ITALIC SMALL ", [
    "ALPHA;BETA;GAMMA;DELTA;EPSILON;ZETA;ETA;THETA;IOTA;KAPPA;LAMDA;MU;NU;XI;OMICRON;PI;RHO",
    "FINAL SIGMA;SIGMA;TAU;UPSILON;PHI;CHI;PSI;OMEGA"]⟩,
  ⟨0x1D7C3, "MATHEMATICAL SANS-SERIF BOLD ITALIC ", [
    "PARTIAL DIFFERENTIAL;EPSILON SYMBOL;THETA SYMBOL;KAPPA SYMBOL;PHI SYMBOL;RHO SYMBOL",
    "PI SYMBOL"]⟩,
  ⟨0x1D7CA, "MATHEMATICAL BOLD ", ["CAPITAL DIGAMMA;SMALL DIGAMMA"]⟩,
  ⟨0x1D7CE, "MATHEMATICAL BOLD DIGIT ", ["ZERO;ONE;TWO;THREE;FOUR;FIVE;SIX;SEVEN;EIGHT;NINE"]⟩,
  ⟨0x1D7D8, "MATHEMATICAL DOUBLE-STRUCK DIGIT ", [
    "ZERO;ONE;TWO;THREE;FOUR;FIVE;SIX;SEVEN;EIGHT;NINE"]⟩,
  ⟨0x1D7E2, "MATHEMATICAL SANS-SERIF DIGIT ", [
    "ZERO;ONE;TWO;THREE;FOUR;FIVE;SIX;SEVEN;EIGHT;NINE"]⟩,
  ⟨0x1D7EC, "MATHEMATICAL SANS-SERIF BOLD DIGIT ", [
    "ZERO;ONE;TWO;THREE;FOUR;FIVE;SIX;SEVEN;EIGHT;NINE"]⟩,
  ⟨0x1D7F6, "MATHEMATICAL MONOSPACE DIGIT ", ["ZERO;ONE;TWO;THREE;FOUR;FIVE;SIX;SEVEN;EIGHT;NINE"]⟩]

end BlockSync.Text.CharacterName
