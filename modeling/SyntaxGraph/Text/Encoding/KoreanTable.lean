import SyntaxGraph.Text.Encoding.Cells

/-!
# Korean character sets

The cells of the rows of KS X 1001, 94 to a row.
-/
namespace SyntaxGraph.Text

def packedKsx1001 : Packed :=
  ⟨18265, "fPjzn&)5[^u.^Q+tgGd_c&)ÇB`cpkhTl%P7^#t!VF_LI$=vҋC6Ę&Zi,|MǌiY`Vjѿ7ˠΑJ~[ZZ3v[uF|AbY<љѰi2j2H
z/K#:MJ>O<(BeZ!O9Ip>j/vymruV[%gy99c$Ħ4?6;rŭVÁo>huu<CEh=2!Ըh7]Gt%Bwm^Tf)lYEz~;ťGÌ9FA_*F)70|cpt>uƐ7˹qC
x`2AfVQ)dR?a]`._3Qbwm6ϫNqan;J~yM5nqfgNuqx@T+ʶoxc4XTEF8i7?RBՈzZǻ96~u2,J0M9l!Ş[K|fsɸc;=7v_<BGJyե0Ԅ1F3$
]Z?Hk%ltX[k^wX29r]&%Ưe&ѥV=&rѬUZwԫXtDM(ìw%Zcq4?EpiviR2Z>^hź91QB3jDÝmel7l|o,LxtGx?Kr77X7h_Mo˻LSJo[NNfs
r`efxLq%=B0ɷOpJ;Ȅt48]RFɺv&|ŋX'9ͳV$Jp_0:0v΁,P'F^0+yFJ?3kq677zz#UhKN%ttwGO@/@+L&f0W)x<ӽ+zȘ)kԨաˡ^ZPPҗ.ł
muoӜ8V&EśpcT47@FKϙME[+q4!ե<6Znpv3?íE8m__%ǞFkS!:~+w&~BҬw2,mȢ[2`nՖəvKU0MnKfuzk'мPf|V@d|յPrV<vm7&]qVaϟp
_^5'kH0;SG?gâi1]+2ffw8t4J;`X?YQIfEj^ձ5kq,TҤzuZn9ULrcO/y%V25եalY=AQ;<]Y[^U7?35f'<:CXB_tmX;SJdgˍEB<50s
6o!оTg)=t+^m$Vձt,|~K>0q?&s(>VLm2Rr[Q=FVsrIγ!3;:(h0HĿJrKmğx*8nMBefv;%ͽѰGD?/A2dɻq2ìU,WǿBƀe4H7/&V:gϛ:%L
~$Ѽ#6Zl9wwlUYY.XJL_Vt7Zuymqmǭ'+ūa;$м)3+2նh3$U~lVqVAgyGInkƐK՗>YD/f|Q)oeë*INaI9iG#L:JRw~l`C@cqW|nR9/Ù=
_vY]$O<gD:t|m.*gD=ՕarBpe/|vTwraQa@ļ(7#LY%pxB^ƄymCHBQRPj;]7w3A#pUI3ao(2[v^`)KT5(ngZģ`ϓ6e@,[.*`ck#%On~
zպUeI_I?g?9aců=`g=љPOZ:+;IM9O,'+J4<9Ra]29ԋnj&@)TO|Cqi[?ЉNRVХREa=rgѧğ,wĄ_ptPb,Ĩ@*N$wžՀ1.cn;C_`E3wΆ<Z[
Pӫg<ӮN++)TF>_8DHZD7u*3B`ʰN=/ƊOBϫP,LĶyXzgs>C4+|!3sɦ@x$`e'ȟip:ɨI%ŖŘfslaMgɧ3TXPr:(;*rT`KTWANse,S;@PZ2=Q
d@DXf$nи>DXua%xn˚snėPzAʴM1VD&^o[z@(y%NǴ76[QJt@N.ǀf:^&|F3ϒNhNl01~t^pէ^ˊϓԞcʼLyiqbӭ^f?k))/uաQѷIK%2υ`ijǋ
r[2ůL6ˬ)>ԙҷxZ$|OyBWʊ+&iC6MI,:Q*/]!G(IiFn*&)AzPΒ+Qw$6c]YwU˦ƨ9l*zDt4=/gkE5`;#ƤHl.Y1+n<^iS|՟ў9|Ǟ~tfO9@v
Ү7Tˆo/'>Еg8Ġƕ5^Ҟ?ː#zB8Ρ9@3x3*I]g@K38dX~KwŢRнO+rq/?fFƈ=EGs+w$Z+GfÌvkC[ӓR4E)UxaMD)Z6=TȯO3R+2i2gokYԌբ(:
/ei9/BhˋUKc=k#$XAztűwO4qNt?8,>k=!k]h7TCώaYīFˋAc2ÄF;TNDU>u~/Wj'VԚ|I|mPsal]jxģ3/V0Sժ=NAXRBUp6WΘW:Щ՜f`d
?q~USa_,wYWf!RlђdDe͵[3;5o1)*0ҟnL$fyfn8R`dHk@Kj,xDm7#|C`]H[ԅGOmljE9m;IX2p$okbdƝ2+jL*OӇ+Ŷ_:0M$b+QK)`o6
b$1u,*4ɠ5Qm[iH`4qfɇ?G@yӢ]BaM%ȑrGRq,Z՚iGYZJQ%g1ȳ:τJ5.2@s(҈U^U__9]PØ@Ҿ5,D'/&6y@nA|.H)~Qf~Eq~%a921$tRMo
;d3yn|$Չ[2k)Ww2=(E&lgɯ˔HvXnwJ;8nDes!cOMgb@n[i#Xns&f:hvΗ%,W6[XCYˀ[`9Ը~9a>KIw@;WUrD~F0[O<p./7Օc,'pjaZ/
aҶ(N'iE0[vpJ#o2ѝw0ynzk/fuW$>(x!///cvEdF)J)'Өa!;l@,#t,Ӆ7ǣ0ɲ1?^PNv_cwE?KlNg9ӤUz8JȂնa~R[8>ibksiT]j[sҲ[L
Þ.Uj(EʠF4)+ѭFMe:!Ozw)YfП<Q$b'~^r8<2QeBE)?P#@/aax//k+itH~)z$4/5Ǒ3oŪI/af*XK][*~h[XW<<<%^JjMs@Ǩ#ΛbvSǬ&1
5Bv3),TC]e1<wU2^s_!Ssls88Ō&Xao~2|v4%<C8UGW)RK$2|Ge΋=TsZQO?t=#C]T԰Zun(#j/grD?RIjnnqYHbL,Oȷ^%_YHř^hD3V
7:DA4HE(9ԥw%!ϲS7`*/бHɜvȽLr;3՘Ў!Ό~Ų|Mմ&dp]ms,cc!VO,|6qZOҴ@oN%RȎ0Iɻ~B>V;ǖKMv%3P=Ǥ=CUu΋$Nn;*?kO9c]|tE+;
A?)~*9<ԮzXo_/EcteV?ĞOՠY3X#fHUt~7F*e4bf>f1dѮa7,l9AAYhfyoɁ`(Cx9(%w.YüJ6YIF@Dџ5.vEmɫd#;XYaļi6mǑ)Ȏo7K70w
;LOCtOpjX:I(9J<$B][ҮՐժҏR<5=!8cշ<՞>^2˯Ǭ]|;E`]lSăqysYϩ˙7(=aXrE[8pel7hxm`_wq3~S;)zTũ]κTfn9eP<#D;jɧ7f_o;
EsdYezv<(JԾ'=xcv=#LPz@=k2n3Wu7jt>`)00C(|pa30Bŵ˧cx8'HH^Ħc#VYz0vri0|Ud<@M~A*A+Wjv=|&ezUm:ăI4#IO#]5Jzh$
wVoMLէ/hWx7RQ=0*cL~cǑbx1$΀YAɖW:G0<Э;qϰȶN(DLc#?qҹQ,zLQrK@ƳʗZegȈcJo8ys/dMb4ENlO#&8$6~i/K23I|ɠ8Ğ1o@=[84
ŰX?oҒ˷o_?8J_8myjYqZQC/DT)`ъ$.ѫ_UE5ero'ώt2@dk#;[~|?>Х`K]c+2AFISԶ[ASt`ȃ#uhACC[FQŬAWJ*y8H@:VNl$`HNoNqxĲ
2ϖy#680Hii]]jŞ2[g7C;RfPh/=x+84/[TyȂhǙE[Jճѕ0r>3TfQEHemL~ëզuH|HsYCff?P.MYŮV8qG_`ԐxaoràQi3W'nNЇ҅s:HfZrT
4187ZcEpwU'^[5JrHBaG)ʌQΎNP_0xt@OK08[)zI+Y[[eL]K+XуqӀ9HM(d$ZiZ7iCl&gR;ӿ[IBI>ԠXMɐzDǻ=ˏk7ВЪBH0SFrDJ/B~R
NCue^Ws6|4GC@jULzk]677*6!^0mkZ[?oc*Ա%^Rh*hҫP[sDz14[7)|0@y>2*K|~mgÃWL<N]ML+KMyFe1LH'PwyA&t<h?x/ZPR1fŢ
^[Z;>M1?tHjku>BӞzozuaAwuxX0Gks*iǭT>ER>B1FG>I6WՙjԳXŏCztXDuүNMM]B]ΰ0F@jwV:vJcS$ŭK?H8a@B&NPw=llU͵3UA8xv
m/#jsqĚq>zνTkO/kOG=Cr3n9|>M60pA5Q(j7xB)R]W:WDJ2TʒrD[˳;m,K$Ƚ<aSPC5stѭm.*'vJeF=*s3JFc%MfkȜf.BmZ|`;ADËF
0D7ʭR?w%)~9eʋ?_ʪp1J.ee%d_F)t'è+Sy|]IqaNLO<&rmv$B1Ei=VՖlP!ZEgf,*ʹ?EW4Q_~iw[b3/xAY?hQen01:DaD?A#XFt5zY
7jT:Bɿʎj#Kt_b^˯ȑ3$Ť[<6ӷBDxHepԁ$;.N6M=w:DbUt|7n`ʞ7Gϛɶl)=$7y#jXELid1YU/_0ft%&3u%,9Q'Shmc6&9ԒpxK&Fy!m>!
dF!ǤӽJAifUOĆʿ$nKJ)|A46RNL:ýwq|pN!u$ZE`dFlo83T/`P]u1Iow9ӏW#Z'vʧ2hh2:8˺ƌnNC%dKtI[VǧrmPfmG.&S=Q4*Պ|<[#Q
ʼŒb[x|7(A&@YbGĥ+%dJF@|QR#ő|/VTZw~+$9xxЬ:Lз5.2Ѧ>qxsņ:cĲn5n*s6x#+zVkwf;<IY?r^LaŁlˋFb^O5OSTc/ұK.MazoxϘ6
DMYLB8|QALeO%sf0~+kVͼ#oq΢%Ucb.f/ʻTF2ť4@:a^q]qʔb&+IV0Tb#qJ5YxJ=XHwwȌ_f5o[Es:bT&x_Fk*4ԀSƨϥY(2ͶPM&bu0G~
|4ŋҫ8m6ÞImĬP?:hjDLmɄDWQ%ΎtFt=B'п6ȧn[,EfBCnŻc&_WUA(yswxkNҋБ4uǸ=rcRT1MIe,XэOQ!aӅqd7N`xsuUrNәC`5ν>ծƠzj0
ScM]M΍$b&||E|NEu1X.ɂ'ȏcb2ӭLkj#[($n4XSBNYҠ6CR:n6MnWOV2ՎУuh~Жv~iȕZy)xΓ~v%p;@Ȩ.?&XC$y+h#>|5(Qw$άßí6l,ŲS
e*bHa^J@qWB_hTH5!tɝBo3Q9ќ~.I=6/ѶU_c@mWY~Hr=7W(!fdEw0CCdZvo+O48;L$HJT>;('e`2Ξ8jPҊkӮK9.99D9gCFoEd8+V^d
oo'c*ЌYӛƘ[NCtcaLEUj4aQG+.ѻ΃+No;']PfNёɥr7<;fm`Zx|gHqX$F6cN+'Dk*QK'*291<P``0|wr_VdxWNĠe!!M9E>fǨ;7d(odA
r1ƞwH6SFţ+6tT4MLzBdk<U51kKOǼ=+g$mErƀzJ@ƐBHd3VϝCǟ]Bu_YCsc!թ~g%Ųl(|ԠIyT5Op/]u4aŪR3X×%lL>կ`UΌ0%eP[U6xT2
?V=3ɢ/`#zmJFO%:Ԙ>Ykј<MY$>T#ɠiouD)E3vjk<!H'`$j`'tD=_Ww3!_eCPAԇESP,?54^W!WwQ%ǚ8&h>]Y;dt&.^[B՟jQyb|wfG@
Hĕ4pNmՖzj$/;WTy0q4VjǶ)?sN^%vcP7ksBhvƮ+UVpJhrVHA9OL?F;*mSeVmxnP>>A10_Trǿ+j7^b~%ACd=[K(PAB_?UcLв3epĒOd
@L0;54K4XdTH`;Fm>ҰfaK)JW]lqq~M9[Ȕf@TDҠ0ŗF114^`3LH0>F[my/6ǒ*!7GwPI]X0rMAwKa>ckF^Q'+[&Iˀm1ΐ9^nÂ<4Q!qiԕ
,HK8~l%5?zpB%z,eDF?DXkzCG'yӑ7unQ(j]b!l%'dȝ=ffL=?L=^eqKkP513U՝5LtVn(_^pmbT˧+jK6&mPxbqutt*uvelU9B?G`%6
sM'V__԰ϭ&,,E#fz5[cWqS]jĎg;uba<nj>Qg*À+omzIP=_yÌc?NSMovjRv|=qCȯtCYQH>ɛSi)k'ƈat64Mjf9GQ;|8Cv*@N')@.Q/,
0eU=цA%uOU5@s<Hƴ2+dȘ)ȿmҳRmEʩ4c:zra$F+Ilˬ<W.wBP[ՎA$Pni6[P!FuWtɃFOI/)+bO=8W~TZ+`$bgBb^~s0<n^dЮĨ~OL)L+ϒ
ϑΓo9Xpc=PZ^=Ԇ[(qUZVȐqp4n&G?0i$LCͼx$Wfelbd.E|ˍBu*$Nɱ!żՌ[_ZbǨTԹ]`LnNI~2eXHʌBǨ;l=0uqi'1T<&!fVEp.qȻp(#e/
Tӹ~U]HUcƻ/,rlϾ;(<$^ժx?7fJ]hɮ[q/zQEi,%HCH$rAY)I6^NՉmw~|FHFRqȮp˹5Rυr&_2O|1ECTR%A3>qd+<pX]NLDFi4N՗8CK`m
MP1vz(b4sΓ<Vn:^X.i'7.nH8ssBGv#%L>7'jV&V)uɢA:<NʹFodēїAnlb;MBa.Z>>+(!!EmT>sq8oʬ#[>`!wpnDԉ*ѝ]&6Źu;7Nri'
,Rw7XnW#>Ő5v2+;m4p[.zIYwNicr.)0ȅ](A,!H^*OuPЧ:`YugCiouӳ.|dmw+'Ϣep`RBćĞǰ0J;fq57οFQ!?Ҫ8e=d˯*~B17s<KijLt
f**^.W)q%8bixT#$dBt*gWyAԆAӾblɝXWjEYAra#U#2ӑ9cMĈ;n@iVCqSih3suUojWmLs@;|QrKI_aW)P_ԖPU%sdJƑ$kIFvXw:n&bs
sb^JaTVCΛj$ұLX?*AZrprgoM0j%c7~%^FͲb@E9BH]#HV*Vm>&3uʟbե#/?ak%zÿ#2Ҍ5a_?9EU~fժ8439dw':eu8Ό,r`tNpկ9y4iuҳ
D`pgNdqwʺB^lǣХFKAOux^yC8KLsYWbkSӄEye$74^$@6ƃ!a#7@w|x>k+Ƌ2AqlI_ǱZy;nRb9Ѕ._ZY%!&|ǉnN˚L?`FdԆUDL#Cp5/[#&
$6ɇñ+ar?Nk`f[AAΘ*gCgFюK>plLtY%,՗ǔ0ky;cB|;5E=ѱe8#[btҹ~Q6j=ɒVUgӪsI8@;4Tƌw/*ďIjhc2#N+m:WM1pAR@x:òQg4glV
Œ:Oz9UӜBշijmBӕUaqGǸZZpcŹ9bEC%oϵ.hVdbո|LO@$6*y1΍y$)Ʈ#z?gs8vMՈVʐfj8FtGCʅk);$A1sYVv|GMfĽϓ#cp590ǧѢSǈ3GR|
/YgŻ+fF#=!KAnbG5c!>4k=`Dzi82K68ʾEzW=;aDѾK8hW?.rK˶ŷWp8gzЊǅ/Γ;ɷc*ς#9˟qd+<q,в']%T9>`BЅcƂnRp3x'WKϤ,Zo7Ap
LsļV+?:%ʆu3i(u1j%rEΖa+@JSMj`9ҝ$^r'͹Ŏӗn|`w9*%aV7sohgsOȬdV_uAe,O%^I03Ԯ'4n3kyd0B]nXū@B&g$,7).BM8Ѷx<TYEm
u5;.Ϋ:u~EysxDfMԿm0<F>E)D>UAq5U=աp_D#ҧD]ʃ/8=7xzrĸP;v8|TV$RԒ<N4ǾaCRZ_Zh+ίrQ!.r)>Dg]T+ʩ9tȆ;o|>m9)Ŀ<R=00
f%1Q<.3gd_ҤJfATr0[+$snYԼq,`+RɫL&eh!T&VE/=mrL2=qA|ҮXϑITH|Ԕ6t$YŴ`E]S*fͿ5hdi*ǀl[ѬwaHy7cZ6dĿ+vvG^b~$!pîS
ӎպx7Bj6m˩*ZղY>==dl6:tSKYʠYHhv<p!^@VCłUFОJ_Ll3o;b[ŌK*iҷή˱hRHb|ѹ.vhG/ǾqbobtBc`P4káVҎtzʍɃNxǒ(vC(y*naD0$
*AjAbtDĚ8HMGB[*a'!T0ȓtNҌQgIp?krL]T#.F1vxD6KvHU=i`^łh.`AS6Pj6WҗV+1p5`U0~F_53QƨZ(dV/QlfL'=AarϚAClK(D73
Ŵ*^%ĵkf4?NLAӾTM$e2]AW$,$ͼ@Xի6HBsieƫxҷ~+]ʎPw>VgK!~_4ՠ7fMЛ~%;l5cUɉ'&jRrH;h1ImMNx49ӘSJ2Dr%YKV+JVBM?/$J;
d#)ǤaOfKc_@+Rque,÷d;ʗU_A#@X+$~9SN˭Վvj@B%HԸ5ЦXaAw,g$͹DB7kX)z@0uǰqu/n6tAU#I2;26hOn?tr>dT!FQ.$GXqAѱ56!A
&Xyvg6^ĎVJGft>@30dμKXČ_d6@r?JOEƍyQNhAS_~jPIN,YZq|ԡCUVo77,eYʞԐ@|ȷ#8)<+mT%2eƢvpZŢ<Jϗ,8(.=,ŵ:5c/e88/tIH
]M&ϓFLP:ӹqN807Uғux7V[Yh]`N,.H6mѮi_W'<!(k(dYʇ)H@U4)z`ȗGveRocX'<dbS)C˸Ǜţ^q!Ӗ*;KFggZlb|(6a=~ZWUD`[5E2o|
bU3#0/b`C1['0ҘFJl^N]XwM%~Ҟ:7s^%Oó|Kx`!;60GdXFRwm?B5EQ.ȇȺeSVRaP,Qd?g$/tpCsw4;C3ջsNԡwaovgBcSƓ*|TŐ'71ǣ@
3d3ŠSeOK@A$)T^yy%:XPKgK3;rjs(L@c'ei)AHҖ.J=<G,Dqm|U+2et!&oNҬ=01ADvLú]ŉ,_/]0&]::]ÓH)3a6ŞNbU]rSRM|$kϯb_
4cGVˣ!IhV1;(KAǑ;k'3ç·A6A|0QŠORUkARmGTѫZfmtkDQVέ+kgHYs@!bpü9#TpɘaYmcg^?3c՝.=WŮ?^m*Gp$S(@uX#8jώ$T@%*/L
;zQN/.Xr9Å;H641i@R`*P(M@ã)G1]gYKtvrp@jӻ^pCSK(yo83<m(kY=&D5kyplX$ՍE<ԛpZ*Hz~өtTȞg)dgǥlM4pŕtc=oOH4uΙt!C
xe3gTp=мz9WfhkcVU8Má3FIӻ=҄NŞŝ;zi]w>^J^[BcolЪniҶLHS@?$ryт&WBP]9%*+O1H!tt˰PbN#ȥKT`8ӞXK:,!MϿk@1ϳƙZe[ADa
pV8MG#jň0E?]p58:z;<t6dbÿqaŁmb'ǆH<W(+p)blR$q5]P//T(ѭG@]6ЊFaY3Ww6o/QK/,OHQ*ԯ]xt?U,nmxGoԎ3ȝeOo:x΂th8KPN
]ѽo?:|lQ[aYkR]Ɓή2ONwp3#ƭ#7,^Ϡz2AUvdҪ;΀(<~e~n?˦&w^Dp;Ҙx_E5og96ZcĒW]ȰâD[5<f45G[2*+йkZwh,A^ER72A$)ZԈe'ξ
!ajWNAgW'ҷx8T'ɧW)+K>ß$TnSa@a?Z_VWwK[W9'fD)m4,ax|E)>YH,8u4>t'Lm6abes|[z^NrIt0RM)҈^v8Aųu;Z)evDg&strѳJ^
0hF8[N=AvJjFEĺ*giJId;P_6`L~RKW0?Bnv)SՒ2nԎ9]/#hʦ]1LfɁFC?U+k)bx(WiX3`(&aȩíy@j&|XɁfirBEȖuΝt8UϤ$iWaZvWԹ+
$bMfl1+]pqYՖb/*[#?jeE_3SdaŕI+˵,,t:te$mMΊ1w*wҵ'an9>:_ī9wS3eƲoXKK5t.tVIșB<.O<@j+yұ,0#?tԟ>J=*@SL!T34[0=
DgBKѧHӓ[h8sRSu3dґszsgeáj#=8;8mfxY?W!WHcmźAoIk[;kQgy_|h3g6e4Ku68ҩrCE?N9+Wƪ7&,2nGD4%]ozp$tpVɛ[M^;`?snӫ
6OeHi66OY҅D,hE2Ri@.P8Y@|F*ioMyt$MR2SIgÙKLxϦ(W@jc0OlRú3G)@ӎ6ʎhA[R$avmy*n8;NRDyjdUc|gzGI[ә7Ba'`N!sKgSj
kCql!1@:YsΆ=ѯ_<0ki!YϾG,ʥw)gn9:Վ3AiL;hRoD[LM6*b@:E].TFPG?#<V?<eNt56èh3zb^Dl09ğgQЍEАQ5Cm^$ujpN_%)լR[HƏ
|ǎCvW]VpGƜe12&n%Kz_u7W0@˧@r(mDv.E)hj$0/fE*`ҔKΖCM0aDgh3ufLEŀ]#`D5w9&uQwBmk(ƻE(1[^+CLzK091VlI9F.u*sgIa
2y$eIQԓ5>7X,1AexEPY4t&?QEw~Վo7%S)W&1[f~3,mÜ(Y$ɉ8Z&InY<zIOh,._ȈrwPȦɿy^ƪTX5zK՝0ssS+8&8IэwVBC5jĤb$H*+wm
GJnF1%>cҥґQ?aRPȭz<ū,wԒDԡʲe9q0LdBZZƗdѧ5jkȭn?ŦŴN,~i!?Ĭe.]yluРЊRÖmhEYEǋF?~΂'Xj+/,e%Zzxϡ^cWb˪|wxizéVxplú
N&N5VpZZQbmwhzL*ΓŘZEV&ziDFES%XdJe˯O˩teBqi˛U_%JϬCbGv=.@ĴqKlW`/6bKOĜƙ+.AAaOdȼŷǨsa;3.?d6U@PJa#=:;ĤFTΙm&
,Q_6˥C~v=(N>]`CdQr(/)q~%bb*VƜ[;T5˷>?zZ^^ɻ7nǱ|od`$Εs7`(Jze^m<7|iW|8>Qd8Nb]˸cЦ3~^GqˁxpЌR#a/i5/ϗsr;V>:8
;Ps|0T;<9;ґwdҒOδ=oAJ3Uv]<XEEncɮl8$0%=?)F;6%rhFVPjіNfbLBnps>y[GjTee%Uv/c+Ȕ+d6uV)lj2G8d2RDdeɲFj$$vbCf˞
aZԭe4=.:C'K.2+'.խJX6[xbuyQF[KJoH)gsη'ƫEyqǉSϿ=%ƧHP/sȥ]P_Q9;.U>,3]WPw&p+<~_Ɨzө)FcL>/bW.PC#9Rj~2lCd6e$7
ԉ,,Q54L7ƺ;Q~e8Ill$&M,Hg55+Er(hnиR2;D04pӊ4UbK(h,.zƦ3N`9ô[(M3*|8x&pKetsɌ%]|8<C]agt$y1h4Iе1:ќsiԲQL=xFzy
1=[I*'1%$jf?=|ʙ<|9bDatBvɛBi%(|Έ>9<vexQSvK=Hx8BϜT!ŰҌArR,u`dûΤk,Ӆv+[!Ǳ,qLw4y^c1/<f4VhC]ɀY2XVNI1>K4^3pC
0ˌ|.0*ƚά7:2Oz4x$Z1˙Gr:AHxp5=D!PPZ*ZұDD%ygqɣT2+L)gJ1WKCL/OtU7q]xepbgѡ]1o#Íe%[lhz,ZhR<FӄDKG!mEoeI>l*|N
ru҂U`'i/df^FGQ΀W_<^%adV<j?ˍѺú%qEEXh^=śCs.cAt0Lz3W?CAKYd[AˣRC6:8E'#ˋ1|3RR$VW|ìe2k;mjR8^dUz;/0RsNU7S9Z
<YJl'/ZNПTyMsMʅY$Ω~ў>TS)mgDt+~)e^qхB2#ƌyHwwVuSWBĿfKBɽ^+!2ϭtA8;CD*Ē8|[Əył0]<:/$A3Ւpb>e199_ʀeͳWahUHaђը
ѺG0)[M5F<9ʽY58Ƒ/biNE;b1E9ŮG%0TŎH5bj.]*1թPA2d^Mse,@!ʡǞũxko+ʫLsbT?=ɵoΙOyK=NC:ypM+lilLM8ŕhe^wWZQ6E^'03_
ʆ/3/~UBR8ɜRL#,Ժӎˤ1eѓg!Ơ@oNK6SRȞXz%6D);д)~hH(qrl_jLy,T~50řR)g^Ś)EP#RȥB'ǹӬAXx8ǛfAbpF,QR4ϒ#:i=@Ýu.,Ǚ=Wȼ
)ZпvѼG5!nomcI/)ǐ0҅uTǅ|;2Ҧ`aC&1vʦ5n8U+MRwmQc(4q25΄w]gM%9foVk(/т?y(PKPI|ZpN(CǤJc]>r]΂6үh(lɚ9go;:ŧBDp/A
!,+ӇYDal5u&9bˬX~Y:GӞb>vSFŜ4mMG+rrM02ўBD|c7^ƬM%>185yQ7(n,mDE<xV:E8'yKň0CA:`)`7E[dx1A%]tf_R6Fy'CesW($i
lgBoS$wFuƤfþbjCYyYNƍϥ<]P/.(g_#Ug/108WSVk`3?Y6k^?W5()jJ,TPh!V'jpgc|IM;d+Κ<|[DlJĦCȟ!/>kQ^T7YS=ΞϛHk'h$k
H[:i)!ǥʈlZOAgm/=fNFfrMK2b(c]]Ǉ%|~ͷYE;ǨĸFɘ28LDFbΐ<48cz1beˎgc:i2r(5E@I1/KI~vwQY4w.?%rEbͽ6LӐ$=H@5(Px1Yx
tA&m՞J4W/:i|#s>ȉ+*Iy8R#EeĊz.IQUf=/ej6s8M5=h1k@Tg9SZ^KskύYCHQUeh2yuLĲmԦHVEkҰeáfH0smʇ/Q>X7Էe$G!8(΄avNʖ
8tF_FtoLo@xK:ey:`WZ˂7Z3.^)AZ&%SZXaORy>шJ:PK%ӵԠȂoHΗ:%CWʍ5|.&=(zƪ1)=967Ǿx7Q0˻0A)ƮC<aĘZ&pJaXe,#P(((X7y/
,9_lF+œb8Ƣ1ҮHQhmtjtl~eYkϨȫեAǩI^owr%9jkȁ,ARMş+oM%h81uK+K.lF57!eγuHr&x.2^mfl@PV||F*BFXBf9<(є)mzws?x=:g
h(N'5xYԁ"⟩

end SyntaxGraph.Text
